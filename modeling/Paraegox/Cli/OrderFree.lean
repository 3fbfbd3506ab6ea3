import Paraegox.Cli.TuiOptions

/-!
# Options in any order

An argument list of whole options is a list of units, each with its words.  A parser whose
loop reads settings that are given once takes such a list in every order, refuses an option
that comes twice, and returns for each option its value or its default.
-/

namespace Paraegox.Cli

/-! ## What a command holds -/

section

variable {β : Type} (given : String → String → Prop) (name : String)
  (parse : String → Except String β)

/-- The value of an option that is required. -/
def RequiredIs (x : β) : Prop :=
  (∃ value, given name value) ∧ ∀ value, given name value → parse value = .ok x

/-- The value of an option where it was given, and its default otherwise. -/
def FieldIs (absent x : β) : Prop :=
  (∀ value, given name value → parse value = .ok x) ∧
    ((∀ value, ¬ given name value) → x = absent)

end

/-- What a `node run` command holds of the options given. -/
def RunFields (given : String → String → Prop) : Command → Prop
  | .run nodeId listenEndpoint connectEndpoint peer timeout deck provider =>
      RequiredIs given "--node-id" parseNodeId nodeId ∧
      FieldIs given "--listen" .ok DEFAULT_ENDPOINT listenEndpoint ∧
      FieldIs given "--connect" (fun value => .ok (some value)) none connectEndpoint ∧
      FieldIs given "--probe-peer" (fun value => some <$> parseNodeId value) none peer ∧
      FieldIs given "--timeout-ms" parseTimeoutMs DEFAULT_PROBE_TIMEOUT_MS timeout ∧
      FieldIs given "--deck" (fun value => some <$> parseDeck value) none deck ∧
      FieldIs given "--provider" parseProvider .deterministic provider
  | _ => False

/-- What a `node probe` command holds of the options given. -/
def ProbeFields (given : String → String → Prop) : Command → Prop
  | .probe target connectEndpoint timeout =>
      RequiredIs given "--target" parseNodeId target ∧
      FieldIs given "--connect" .ok DEFAULT_ENDPOINT connectEndpoint ∧
      FieldIs given "--timeout-ms" parseTimeoutMs DEFAULT_PROBE_TIMEOUT_MS timeout
  | _ => False

/-- What a `tui` command holds of the options given, and of the flag. -/
def TuiFields (given : String → String → Prop) (flag : Prop) : Command → Prop
  | .tui target connectEndpoint timeout stdioJsonl =>
      RequiredIs given "--target" parseNodeId target ∧
      FieldIs given "--connect" .ok DEFAULT_ENDPOINT connectEndpoint ∧
      FieldIs given "--timeout-ms" parseTimeoutMs DEFAULT_TUI_TIMEOUT_MS timeout ∧
      (stdioJsonl = true ↔ flag)
  | _ => False

/-! ## Units -/

/-- An option with its value, as `node run` and `node probe` know them. -/
structure OptionPair where
  name : String
  value : String
  ne_flag : name ≠ "--stdio-jsonl"
deriving DecidableEq

def OptionPair.words (pair : OptionPair) : List String := [pair.name, pair.value]

/-- A whole option of `tui`. -/
inductive TuiUnit where
  | pair (option : OptionPair)
  | stdioJsonl
deriving DecidableEq

def TuiUnit.name : TuiUnit → String
  | .pair option => option.name
  | .stdioJsonl => "--stdio-jsonl"

def TuiUnit.value : TuiUnit → Option String
  | .pair option => some option.value
  | .stdioJsonl => none

def TuiUnit.words : TuiUnit → List String
  | .pair option => option.words
  | .stdioJsonl => ["--stdio-jsonl"]

/-- The options that some pairs give. -/
def Gives (units : List OptionPair) (name value : String) : Prop :=
  ∃ option ∈ units, option.name = name ∧ option.value = value

/-- The options that some units give with a value. -/
def TuiGives (units : List TuiUnit) (name value : String) : Prop :=
  ∃ option, .pair option ∈ units ∧ option.name = name ∧ option.value = value

/-- A parser that does not mind the order of whole options, takes none twice and returns what
they give. -/
def OrderFree {ι : Type} (parse : List String → Except String Command) (words : ι → List String)
    (name : ι → String) (fields : List ι → Command → Prop) : Prop :=
  ∀ (units : List ι) (command : Command), parse (units.flatMap words) = .ok command →
    (∀ units' : List ι, units'.Perm units → parse (units'.flatMap words) = .ok command) ∧
    (units.map name).Nodup ∧ fields units command

/-! ## Loops that read settings -/

section

variable {ι σ α : Type} {read : σ → String → α → Except String σ}

/-- A parser whose loop reads settings given once. -/
theorem orderFree_of_reader (R : Settings.Reader read) (finish : σ → Except String Command)
    (value : ι → α) {parse : List String → Except String Command} {words : ι → List String}
    {name : ι → String} {fields : List ι → Command → Prop}
    (hparse : ∀ units : List ι, parse (units.flatMap words) =
      (Settings.readAll read (R.view fun _ => none)
        (units.map fun unit => (name unit, value unit)) >>= finish))
    (hfields : ∀ (units : List ι) (command : Command), (units.map name).Nodup →
      (∀ unit ∈ units, R.accepts (name unit) (value unit)) →
      finish (R.view fun n => (units.map fun unit => (name unit, value unit)).lookup n) =
        .ok command → fields units command) :
    OrderFree parse words name fields := by
  intro units command h
  have hnames (units : List ι) :
      ((units.map fun unit => (name unit, value unit)).map Prod.fst) = units.map name := by
    rw [List.map_map]
    rfl
  rw [hparse] at h
  obtain ⟨s, hread, hfinish⟩ := Except.ok_of_bind h
  obtain ⟨hnodup, haccepts, rfl⟩ := (R.readAll_iff _ _).mp hread
  rw [hnames] at hnodup
  refine ⟨?_, hnodup, hfields units command hnodup ?_ hfinish⟩
  · intro units' hperm
    rw [hparse, R.readAll_perm (hperm.symm.map _) hread]
    exact hfinish
  · intro unit hunit
    exact haccepts _ (List.mem_map_of_mem hunit)

/-- The loop over pairs reads settings. -/
theorem readPairs_flatMap {read : σ → String → String → Except String σ} (options : σ)
    (units : List OptionPair) :
    readPairs read options (units.flatMap OptionPair.words) =
      Settings.readAll read options (units.map fun unit => (unit.name, unit.value)) := by
  induction units generalizing options with
  | nil => rfl
  | cons unit units ih =>
      rw [List.flatMap_cons, OptionPair.words, List.map_cons, List.cons_append, List.cons_append,
        List.nil_append, readPairs, Settings.readAll]
      cases read options unit.name unit.value with
      | error e => rfl
      | ok options' => exact ih options'

/-- The loop of `parse_tui` reads settings. -/
theorem readAll_flatMap (options : TuiOptions) (units : List TuiUnit) :
    options.readAll (units.flatMap TuiUnit.words) =
      Settings.readAll TuiOptions.read options
        (units.map fun unit => (unit.name, unit.value)) := by
  induction units generalizing options with
  | nil => rw [List.flatMap_nil, TuiOptions.readAll, List.map_nil, Settings.readAll]
  | cons unit units ih =>
      rw [List.flatMap_cons, List.map_cons, Settings.readAll]
      cases unit with
      | stdioJsonl =>
          rw [TuiUnit.words, List.singleton_append, TuiOptions.readAll.eq_def]
          dsimp only
          rw [if_pos rfl]
          simp only [TuiUnit.name, TuiUnit.value, TuiOptions.read, true_and]
          cases options.stdioJsonl with
          | true => rfl
          | false => exact ih _
      | pair option =>
          rw [TuiUnit.words, OptionPair.words, List.cons_append, List.cons_append,
            List.nil_append, TuiOptions.readAll, if_neg option.ne_flag]
          simp only [TuiUnit.name, TuiUnit.value, TuiOptions.read]
          cases options.toTargetOptions.read "tui" option.name option.value with
          | error e => rfl
          | ok target => exact ih _

end

/-! ## What was given -/

section

variable {β : Type} {given : String → String → Prop} {name : String} {o : Option String}
  {parse : String → Except String β}

theorem fieldIs_of_lookup (hgives : ∀ value, o = some value ↔ given name value) {absent x : β}
    (hsome : ∀ value, o = some value → parse value = .ok x) (hnone : o = none → x = absent) :
    FieldIs given name parse absent x := by
  refine ⟨fun value h => hsome value ((hgives value).mpr h), ?_⟩
  intro h
  refine hnone (Option.eq_none_iff_forall_ne_some.mpr ?_)
  intro value hvalue
  exact h value ((hgives value).mp hvalue)

theorem toOption_eq_some {x : Except String β} {b : β} (h : x.toOption = some b) : x = .ok b := by
  cases x with
  | error e => cases h
  | ok a => exact congrArg _ (Option.some.inj h)

/-- A field that must show a value. -/
theorem requiredIs_bind (hgives : ∀ value, o = some value ↔ given name value) {x : β}
    (h : (o.bind fun value => (parse value).toOption) = some x) :
    RequiredIs given name parse x := by
  obtain ⟨value, hvalue, hparse⟩ := Option.bind_eq_some_iff.mp h
  refine ⟨⟨value, (hgives value).mp hvalue⟩, ?_⟩
  intro value' hvalue'
  obtain rfl := Option.some.inj (hvalue.symm.trans ((hgives value').mpr hvalue'))
  exact toOption_eq_some hparse

/-- A field that shows a right value, if any. -/
theorem fieldIs_bind (hgives : ∀ value, o = some value ↔ given name value)
    (hright : ∀ value, o = some value → ∃ x, parse value = .ok x) :
    FieldIs given name (fun value => some <$> parse value) none
      (o.bind fun value => (parse value).toOption) := by
  refine fieldIs_of_lookup hgives ?_ ?_
  · intro value hvalue
    obtain ⟨x, hx⟩ := hright value hvalue
    rw [hvalue, Option.bind_some, hx]
    rfl
  · rintro rfl
    rfl

/-- A field that shows a right value or a default. -/
theorem fieldIs_getD (hgives : ∀ value, o = some value ↔ given name value)
    (hright : ∀ value, o = some value → ∃ x, parse value = .ok x) (absent : β) :
    FieldIs given name parse absent
      ((o.bind fun value => (parse value).toOption).getD absent) := by
  refine fieldIs_of_lookup hgives ?_ ?_
  · intro value hvalue
    obtain ⟨x, hx⟩ := hright value hvalue
    rw [hvalue, Option.bind_some, hx]
    rfl
  · rintro rfl
    rfl

end

section

variable {given : String → Option String} {gives : String → String → Prop}

/-- An endpoint is any text. -/
theorem fieldIs_text (hgives : ∀ name value, given name = some value ↔ gives name value)
    (name absent : String) : FieldIs gives name .ok absent ((given name).getD absent) := by
  refine fieldIs_of_lookup (hgives name) ?_ ?_
  · intro value hvalue
    rw [hvalue]
    rfl
  · intro hnone
    rw [hnone]
    rfl

theorem runFields_of_command (hgives : ∀ name value, given name = some value ↔ gives name value)
    (hsettings : ∀ name value, given name = some value → RunSetting name value)
    {command : Command} (h : (RunOptions.view given).command = .ok command) :
    RunFields gives command := by
  obtain ⟨nodeId, hnodeId, -, -, -, -, rfl⟩ := RunOptions.command_eq_ok_iff.mp h
  refine ⟨requiredIs_bind (hgives _) hnodeId, fieldIs_text hgives _ _, ?_,
    fieldIs_bind (hgives _) ?_, fieldIs_getD (hgives _) ?_ _, fieldIs_bind (hgives _) ?_,
    fieldIs_getD (hgives _) ?_ _⟩
  · exact fieldIs_of_lookup (hgives _) (fun value hvalue => congrArg _ hvalue.symm) id
  · intro value hvalue
    exact (parseNodeId_isOk value).mp ((hsettings _ _ hvalue).2.1 (.inr rfl))
  · intro value hvalue
    exact (parseTimeoutMs_isOk value).mp ((hsettings _ _ hvalue).2.2.1 rfl)
  · intro value hvalue
    exact (parseDeck_isOk value).mp ((hsettings _ _ hvalue).2.2.2.1 rfl)
  · intro value hvalue
    exact (parseProvider_isOk value).mp ((hsettings _ _ hvalue).2.2.2.2 rfl)

/-- The fields that `node probe` and `tui` share. -/
theorem targetFields_of_view (hgives : ∀ name value, given name = some value ↔ gives name value)
    (hsettings : ∀ name value, given name = some value → TargetSetting name value)
    {timeoutMs : Nat} {target : NodeId}
    (htarget : (TargetOptions.view timeoutMs given).target = some target) :
    RequiredIs gives "--target" parseNodeId target ∧
      FieldIs gives "--connect" .ok DEFAULT_ENDPOINT
        (TargetOptions.view timeoutMs given).connectEndpoint ∧
      FieldIs gives "--timeout-ms" parseTimeoutMs timeoutMs
        (TargetOptions.view timeoutMs given).timeoutMs := by
  refine ⟨requiredIs_bind (hgives _) htarget, fieldIs_text hgives _ _,
    fieldIs_getD (hgives _) ?_ _⟩
  intro value hvalue
  exact (parseTimeoutMs_isOk value).mp ((hsettings _ _ hvalue).2.2 rfl)

end

/-- The pairs of a list that gives nothing twice. -/
theorem lookup_gives {units : List OptionPair} (h : (units.map OptionPair.name).Nodup)
    (name value : String) :
    (units.map fun unit => (unit.name, unit.value)).lookup name = some value ↔
      Gives units name value := by
  rw [Settings.lookup_eq_some_iff_mem (by rwa [List.map_map]), List.mem_map, Gives]
  simp only [Prod.mk.injEq]

theorem values_gives {units : List TuiUnit} (h : (units.map TuiUnit.name).Nodup)
    (name value : String) :
    TuiOptions.values (fun n => (units.map fun unit => (unit.name, unit.value)).lookup n) name =
      some value ↔ TuiGives units name value := by
  rw [TuiOptions.values, Option.join_eq_some_iff,
    Settings.lookup_eq_some_iff_mem (by rwa [List.map_map]), List.mem_map, TuiGives]
  constructor
  · rintro ⟨unit, hunit, heq⟩
    cases unit with
    | stdioJsonl => cases heq
    | pair option =>
        cases heq
        exact ⟨option, hunit, rfl, rfl⟩
  · rintro ⟨option, hoption, rfl, rfl⟩
    exact ⟨.pair option, hoption, rfl⟩

/-- The flag among some units. -/
theorem lookup_flag (units : List TuiUnit) :
    ((units.map fun unit => (unit.name, unit.value)).lookup "--stdio-jsonl").isSome ↔
      .stdioJsonl ∈ units := by
  rw [← Option.ne_none_iff_isSome, Ne, Settings.lookup_eq_none_iff_notMem, not_not, List.map_map,
    List.mem_map]
  constructor
  · rintro ⟨unit, hunit, hname⟩
    cases unit with
    | stdioJsonl => exact hunit
    | pair option => exact absurd hname option.ne_flag
  · intro h
    exact ⟨.stdioJsonl, h, rfl⟩

/-! ## The parsers -/

theorem parseRun_orderFree :
    OrderFree parseRun OptionPair.words OptionPair.name fun units => RunFields (Gives units) := by
  refine orderFree_of_reader RunOptions.reader RunOptions.command OptionPair.value ?_ ?_
  · intro units
    rw [parseRun, readPairs_flatMap]
    rfl
  · intro units command hnodup haccepts h
    refine runFields_of_command (lookup_gives hnodup) ?_ h
    intro name value hvalue
    obtain ⟨option, hoption, rfl, rfl⟩ := (lookup_gives hnodup name value).mp hvalue
    exact haccepts option hoption

theorem parseProbe_orderFree :
    OrderFree parseProbe OptionPair.words OptionPair.name
      fun units => ProbeFields (Gives units) := by
  refine orderFree_of_reader (TargetOptions.reader "node probe" DEFAULT_PROBE_TIMEOUT_MS)
    TargetOptions.probe OptionPair.value ?_ ?_
  · intro units
    rw [parseProbe, readPairs_flatMap]
    rfl
  · intro units command hnodup haccepts h
    rw [TargetOptions.probe] at h
    split at h
    · cases h
    next target htarget =>
      cases h
      refine targetFields_of_view (lookup_gives hnodup) ?_ htarget
      intro name value hvalue
      obtain ⟨option, hoption, rfl, rfl⟩ := (lookup_gives hnodup name value).mp hvalue
      exact haccepts option hoption

theorem parseTui_orderFree :
    OrderFree parseTui TuiUnit.words TuiUnit.name
      fun units => TuiFields (TuiGives units) (.stdioJsonl ∈ units) := by
  refine orderFree_of_reader TuiOptions.reader TuiOptions.tui TuiUnit.value ?_ ?_
  · intro units
    rw [parseTui, readAll_flatMap]
    rfl
  · intro units command hnodup haccepts h
    rw [TuiOptions.tui] at h
    split at h
    · cases h
    next target htarget =>
      cases h
      have hsettings (name value : String) (hvalue : TuiOptions.values
          (fun n => (units.map fun unit => (unit.name, unit.value)).lookup n) name =
            some value) : TargetSetting name value := by
        obtain ⟨option, hoption, rfl, rfl⟩ := (values_gives hnodup name value).mp hvalue
        exact haccepts (.pair option) hoption
      obtain ⟨hrequired, hconnect, htimeout⟩ :=
        targetFields_of_view (values_gives hnodup) hsettings htarget
      exact ⟨hrequired, hconnect, htimeout, lookup_flag units⟩

/-! ## What `parse_run` accepts -/

/-- The argument lists of `node run` that make a command. -/
structure AcceptedRun (units : List OptionPair) : Prop where
  known : ∀ unit ∈ units, unit.name ∈ RUN_OPTIONS
  distinct : (units.map OptionPair.name).Nodup
  valid : ∀ unit ∈ units, ValidRunValue unit.name unit.value
  nodeId : "--node-id" ∈ units.map OptionPair.name
  provider : "--provider" ∈ units.map OptionPair.name → "--deck" ∈ units.map OptionPair.name
  together : "--connect" ∈ units.map OptionPair.name ↔ "--probe-peer" ∈ units.map OptionPair.name
  timeout : "--timeout-ms" ∈ units.map OptionPair.name →
    "--probe-peer" ∈ units.map OptionPair.name
  different : ∀ nodeId peer, Gives units "--node-id" nodeId → Gives units "--probe-peer" peer →
    peer ≠ nodeId

theorem isSome_bind_iff {β : Type} {parse : String → Except String β} {given : Option String}
    (h : ∀ value, given = some value → ∃ x, parse value = .ok x) :
    (given.bind fun value => (parse value).toOption).isSome ↔ given.isSome := by
  cases given with
  | none => simp
  | some value =>
      obtain ⟨x, hx⟩ := h value rfl
      simp [hx, Except.toOption]

theorem bind_parseNodeId_eq_some {given : Option String} {nodeId : NodeId} :
    (given.bind fun value => (parseNodeId value).toOption) = some nodeId ↔
      given = some nodeId.value := by
  rw [Option.bind_eq_some_iff]
  constructor
  · rintro ⟨value, rfl, h⟩
    rw [parseNodeId_eq_ok_iff.mp (toOption_eq_some h)]
  · intro h
    refine ⟨_, h, ?_⟩
    rw [parseNodeId_eq_ok_iff.mpr rfl]
    rfl

/-- A run over the arguments of `node run`, and the checks on what was given. -/
theorem parseRun_eq_ok_iff (units : List OptionPair) (command : Command) :
    parseRun (units.flatMap OptionPair.words) = .ok command ↔
      (units.map OptionPair.name).Nodup ∧
      (∀ unit ∈ units, RunSetting unit.name unit.value) ∧
      (RunOptions.view fun n => (units.map fun unit => (unit.name, unit.value)).lookup n).command =
        .ok command := by
  have hiff := RunOptions.reader.readAll_iff (units.map fun unit => (unit.name, unit.value))
  rw [List.map_map, List.forall_mem_map] at hiff
  rw [parseRun, readPairs_flatMap]
  constructor
  · intro h
    obtain ⟨options, hread, hcommand⟩ := Except.ok_of_bind h
    obtain ⟨hnodup, hsettings, rfl⟩ := (hiff options).mp hread
    exact ⟨hnodup, hsettings, hcommand⟩
  · rintro ⟨hnodup, hsettings, hcommand⟩
    have hread := (hiff _).mpr ⟨hnodup, hsettings, rfl⟩
    exact (congrArg (· >>= RunOptions.command) hread).trans hcommand

theorem lookup_isSome (units : List OptionPair) (name : String) :
    ((units.map fun unit => (unit.name, unit.value)).lookup name).isSome ↔
      name ∈ units.map OptionPair.name := by
  rw [← Option.ne_none_iff_isSome, Ne, Settings.lookup_eq_none_iff_notMem, not_not, List.map_map]
  rfl

/-- The checks after the loop, on what was given. -/
theorem command_isOk_iff {given : String → Option String}
    (hsettings : ∀ name value, given name = some value → RunSetting name value) :
    (∃ command, (RunOptions.view given).command = .ok command) ↔
      (given "--node-id").isSome ∧ ((given "--provider").isSome → (given "--deck").isSome) ∧
      ((given "--connect").isSome ↔ (given "--probe-peer").isSome) ∧
      ((given "--timeout-ms").isSome → (given "--probe-peer").isSome) ∧
      ∀ nodeId peer, given "--node-id" = some nodeId → given "--probe-peer" = some peer →
        peer ≠ nodeId := by
  have hnodeId (nodeId : NodeId) : (RunOptions.view given).nodeId = some nodeId ↔
      given "--node-id" = some nodeId.value := bind_parseNodeId_eq_some
  have hpeer (peer : NodeId) : (RunOptions.view given).peer = some peer ↔
      given "--probe-peer" = some peer.value := bind_parseNodeId_eq_some
  have hpeerSome : (RunOptions.view given).peer.isSome ↔ (given "--probe-peer").isSome :=
    isSome_bind_iff fun value h => (parseNodeId_isOk value).mp ((hsettings _ _ h).2.1 (.inr rfl))
  have hdeckSome : (RunOptions.view given).deck.isSome ↔ (given "--deck").isSome :=
    isSome_bind_iff fun value h => (parseDeck_isOk value).mp ((hsettings _ _ h).2.2.2.1 rfl)
  have hconnect : (RunOptions.view given).connectEndpoint = given "--connect" := rfl
  have hprovider : (RunOptions.view given).providerWasSet = (given "--provider").isSome := rfl
  have htimeout : (RunOptions.view given).timeoutWasSet = (given "--timeout-ms").isSome := rfl
  constructor
  · rintro ⟨command, h⟩
    obtain ⟨nodeId, hnode, hdeck, htogether, hprobe, hdifferent, -⟩ :=
      RunOptions.command_eq_ok_iff.mp h
    rw [hprovider, hdeckSome] at hdeck
    rw [hconnect, hpeerSome] at htogether
    rw [htimeout, hpeerSome] at hprobe
    rw [hnodeId] at hnode
    rw [Ne, hpeer] at hdifferent
    refine ⟨by rw [hnode]; rfl, hdeck, htogether, hprobe, ?_⟩
    rintro value _ hvalue hsame rfl
    obtain rfl := Option.some.inj (hnode.symm.trans hvalue)
    exact hdifferent hsame
  · rintro ⟨hnode, hdeck, htogether, hprobe, hdifferent⟩
    obtain ⟨value, hvalue⟩ := Option.isSome_iff_exists.mp hnode
    obtain ⟨nodeId, hparse⟩ :=
      (parseNodeId_isOk value).mp ((hsettings _ _ hvalue).2.1 (.inl rfl))
    obtain rfl := parseNodeId_eq_ok_iff.mp hparse
    refine ⟨_, RunOptions.command_eq_ok_iff.mpr
      ⟨nodeId, (hnodeId nodeId).mpr hvalue, ?_, ?_, ?_, ?_, rfl⟩⟩
    · rw [hprovider, hdeckSome]
      exact hdeck
    · rw [hconnect, hpeerSome]
      exact htogether
    · rw [htimeout, hpeerSome]
      exact hprobe
    · rw [Ne, hpeer]
      intro hsame
      exact hdifferent _ _ hvalue hsame rfl

theorem parseRun_isOk_iff (units : List OptionPair) :
    (∃ command, parseRun (units.flatMap OptionPair.words) = .ok command) ↔ AcceptedRun units := by
  have hiff (hnodup : (units.map OptionPair.name).Nodup)
      (hsettings : ∀ unit ∈ units, RunSetting unit.name unit.value) :
      ∀ name value, (units.map fun unit => (unit.name, unit.value)).lookup name = some value →
        RunSetting name value := by
    intro name value hvalue
    obtain ⟨option, hoption, rfl, rfl⟩ := (lookup_gives hnodup name value).mp hvalue
    exact hsettings option hoption
  simp only [parseRun_eq_ok_iff, exists_and_left]
  constructor
  · rintro ⟨hnodup, hsettings, h⟩
    have hchecks := (command_isOk_iff (hiff hnodup hsettings)).mp h
    simp only [lookup_isSome, lookup_gives hnodup] at hchecks
    obtain ⟨hnode, hdeck, htogether, hprobe, hdifferent⟩ := hchecks
    exact ⟨fun unit hunit => (hsettings unit hunit).1, hnodup,
      fun unit hunit => (hsettings unit hunit).2, hnode, hdeck, htogether, hprobe, hdifferent⟩
  · intro h
    have hsettings (unit : OptionPair) (hunit : unit ∈ units) : RunSetting unit.name unit.value :=
      ⟨h.known unit hunit, h.valid unit hunit⟩
    refine ⟨h.distinct, hsettings, (command_isOk_iff (hiff h.distinct hsettings)).mpr ?_⟩
    simp only [lookup_isSome, lookup_gives h.distinct]
    exact ⟨h.nodeId, h.provider, h.together, h.timeout, h.different⟩

/-- The options of all three parsers may come in any order, none of them twice, and the command
holds what they give; `node run` accepts what it should. -/
theorem options_order_free :
    OrderFree parseRun OptionPair.words OptionPair.name (fun units => RunFields (Gives units)) ∧
    OrderFree parseProbe OptionPair.words OptionPair.name
      (fun units => ProbeFields (Gives units)) ∧
    OrderFree parseTui TuiUnit.words TuiUnit.name
      (fun units => TuiFields (TuiGives units) (.stdioJsonl ∈ units)) ∧
    ∀ units : List OptionPair,
      (∃ command, parseRun (units.flatMap OptionPair.words) = .ok command) ↔ AcceptedRun units :=
  ⟨parseRun_orderFree, parseProbe_orderFree, parseTui_orderFree, parseRun_isOk_iff⟩

end Paraegox.Cli
