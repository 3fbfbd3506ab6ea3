import Paraegox.Cli.Command
import Paraegox.Lib.Except
import Paraegox.Lib.Settings

/-!
# The options of `node run`

What the record of `parse_run` holds is a view of the options that were given: for each
option its value, and where there is none its default.  So the loop reads settings that are
given once, and the checks after it speak of which were given.
-/

namespace Paraegox.Cli

/-! ## Values -/

theorem parseNodeId_eq_ok_iff {value : String} {nodeId : NodeId} :
    parseNodeId value = .ok nodeId ↔ nodeId.value = value := by
  rw [parseNodeId, NodeId.fromStr]
  split_ifs with hvalid
  · rw [Except.ok.injEq, NodeId.mk.injEq]
    exact eq_comm
  · constructor
    · intro h
      cases h
    · rintro rfl
      exact absurd nodeId.valid hvalid

theorem parseNodeId_isOk (value : String) :
    NodeId.Valid value ↔ ∃ nodeId, parseNodeId value = .ok nodeId := by
  constructor
  · intro h
    exact ⟨⟨value, h⟩, parseNodeId_eq_ok_iff.mpr rfl⟩
  · rintro ⟨nodeId, h⟩
    exact parseNodeId_eq_ok_iff.mp h ▸ nodeId.valid

theorem parseTimeoutMs_isOk (value : String) :
    (∃ ms, parseU64 value = some ms ∧ 100 ≤ ms ∧ ms ≤ 60000) ↔
      ∃ ms, parseTimeoutMs value = .ok ms := by
  rw [parseTimeoutMs]
  cases parseU64 value with
  | none => simp
  | some ms =>
      dsimp only
      split_ifs with h
      · simp [h]
      · simpa using h

theorem parseDeck_isOk (value : String) :
    value = "builtin-agent" ↔ ∃ deck, parseDeck value = .ok deck := by
  rw [parseDeck]
  split_ifs with h
  · exact ⟨fun _ => ⟨_, rfl⟩, fun _ => h⟩
  · simp [h]

theorem parseProvider_isOk (value : String) :
    (value = "deterministic" ∨ value = "deepseek-v4-flash") ↔
      ∃ provider, parseProvider value = .ok provider := by
  rw [parseProvider]
  split_ifs with hfirst hsecond
  · exact ⟨fun _ => ⟨_, rfl⟩, fun _ => .inl hfirst⟩
  · exact ⟨fun _ => ⟨_, rfl⟩, fun _ => .inr hsecond⟩
  · simp [hfirst, hsecond]

/-! ## A round -/

/-- A round on one option: it is read if it was not given before and its value is right, and
then it shows in the record. -/
theorem round_iff {σ β : Type} {guard unset valid : Prop} [Decidable guard]
    {parsed : Except String β} {set : β → σ} {e : String} {target options : σ}
    (hguard : guard ↔ unset) (hvalid : valid ↔ ∃ x, parsed = .ok x)
    (htarget : ∀ x, parsed = .ok x → target = set x) :
    (if guard then (do return set (← parsed)) else .error e) = .ok options ↔
      unset ∧ valid ∧ options = target := by
  rw [Except.ite_error_eq_ok, hguard, hvalid]
  refine and_congr_right fun _ => ?_
  cases parsed with
  | error e =>
      constructor
      · intro h
        cases h
      · rintro ⟨⟨x, hx⟩, -⟩
        cases hx
  | ok x =>
      rw [htarget x rfl]
      constructor
      · intro h
        cases h
        exact ⟨⟨x, rfl⟩, rfl⟩
      · rintro ⟨-, rfl⟩
        rfl

/-- A field that shows a right value shows whether it was given. -/
theorem isNone_bind_iff {β : Type} {parse : String → Except String β} {given : Option String}
    (h : ∀ value, given = some value → ∃ x, parse value = .ok x) :
    (given.bind fun value => (parse value).toOption).isNone ↔ given = none := by
  cases given with
  | none => simp
  | some value =>
      obtain ⟨x, hx⟩ := h value rfl
      simp [hx, Except.toOption]

/-! ## The record of `parse_run` -/

/-- The values `parse_run` takes for its options. -/
def ValidRunValue (name value : String) : Prop :=
  (name = "--node-id" ∨ name = "--probe-peer" → NodeId.Valid value) ∧
  (name = "--timeout-ms" → ∃ ms, parseU64 value = some ms ∧ 100 ≤ ms ∧ ms ≤ 60000) ∧
  (name = "--deck" → value = "builtin-agent") ∧
  (name = "--provider" → value = "deterministic" ∨ value = "deepseek-v4-flash")

/-- A known option of `parse_run`, with a value that is right for it. -/
def RunSetting (name value : String) : Prop := name ∈ RUN_OPTIONS ∧ ValidRunValue name value

namespace RunOptions

/-- The record that shows what was given. -/
def view (given : String → Option String) : RunOptions where
  nodeId := (given "--node-id").bind fun value => (parseNodeId value).toOption
  listenEndpoint := (given "--listen").getD DEFAULT_ENDPOINT
  listenWasSet := (given "--listen").isSome
  connectEndpoint := given "--connect"
  peer := (given "--probe-peer").bind fun value => (parseNodeId value).toOption
  timeoutMs := ((given "--timeout-ms").bind fun value => (parseTimeoutMs value).toOption).getD
    DEFAULT_PROBE_TIMEOUT_MS
  timeoutWasSet := (given "--timeout-ms").isSome
  deck := (given "--deck").bind fun value => (parseDeck value).toOption
  provider := ((given "--provider").bind fun value => (parseProvider value).toOption).getD
    .deterministic
  providerWasSet := (given "--provider").isSome

section

variable (options : RunOptions) (value : String)

theorem read_nodeId : options.read "--node-id" value =
    if options.nodeId.isNone then
      (do return { options with nodeId := some (← parseNodeId value) })
    else .error "duplicate option `--node-id`" := by
  unfold read
  by_cases h : options.nodeId.isNone <;> simp [h, RUN_OPTIONS]

theorem read_listen : options.read "--listen" value =
    if ¬ options.listenWasSet then
      (do return { options with listenEndpoint := ← .ok value, listenWasSet := true })
    else .error "duplicate option `--listen`" := by
  unfold read
  by_cases h : options.listenWasSet
  · simp [h, RUN_OPTIONS]
  · simp [h]
    rfl

theorem read_connect : options.read "--connect" value =
    if options.connectEndpoint.isNone then
      (do return { options with connectEndpoint := some (← .ok value) })
    else .error "duplicate option `--connect`" := by
  unfold read
  by_cases h : options.connectEndpoint.isNone
  · simp [h]
    rfl
  · simp [h, RUN_OPTIONS]

theorem read_peer : options.read "--probe-peer" value =
    if options.peer.isNone then
      (do return { options with peer := some (← parseNodeId value) })
    else .error "duplicate option `--probe-peer`" := by
  unfold read
  by_cases h : options.peer.isNone <;> simp [h, RUN_OPTIONS]

theorem read_timeoutMs : options.read "--timeout-ms" value =
    if ¬ options.timeoutWasSet then
      (do return { options with timeoutMs := ← parseTimeoutMs value, timeoutWasSet := true })
    else .error "duplicate option `--timeout-ms`" := by
  unfold read
  by_cases h : options.timeoutWasSet <;> simp [h, RUN_OPTIONS]

theorem read_deck : options.read "--deck" value =
    if options.deck.isNone then
      (do return { options with deck := some (← parseDeck value) })
    else .error "duplicate option `--deck`" := by
  unfold read
  by_cases h : options.deck.isNone <;> simp [h, RUN_OPTIONS]

theorem read_provider : options.read "--provider" value =
    if ¬ options.providerWasSet then
      (do return { options with provider := ← parseProvider value, providerWasSet := true })
    else .error "duplicate option `--provider`" := by
  unfold read
  by_cases h : options.providerWasSet <;> simp [h, RUN_OPTIONS]

end

/-- An option `parse_run` does not know. -/
theorem read_unknown (options : RunOptions) {name : String} (value : String)
    (h : name ∉ RUN_OPTIONS) :
    options.read name value = .error ("unknown node run option `" ++ name ++ "`") := by
  have hne : ∀ known ∈ RUN_OPTIONS, name ≠ known := by
    rintro known hknown rfl
    exact h hknown
  simp only [RUN_OPTIONS, List.forall_mem_cons] at hne
  simp [read, hne, h]

/-- A round shows what was given before, and takes no option twice. -/
theorem read_iff {given : String → Option String}
    (hgiven : ∀ name value, given name = some value → RunSetting name value)
    (name value : String) (options : RunOptions) :
    (view given).read name value = .ok options ↔
      given name = none ∧ RunSetting name value ∧
        options = view (Function.update given name (some value)) := by
  by_cases hname : name ∈ RUN_OPTIONS
  · have hright (known v : String) (h : given known = some v) : ValidRunValue known v :=
      (hgiven known v h).2
    have hsetting : RunSetting name value ↔ ValidRunValue name value := and_iff_right hname
    rw [hsetting]
    clear hsetting hgiven
    simp only [RUN_OPTIONS, List.mem_cons, List.not_mem_nil, or_false] at hname
    rcases hname with rfl | rfl | rfl | rfl | rfl | rfl | rfl
    · rw [read_nodeId]
      refine round_iff (isNone_bind_iff fun v h => ?_) ?_ fun nodeId h => ?_
      · exact (parseNodeId_isOk v).mp ((hright _ v h).1 (.inl rfl))
      · simp [ValidRunValue, parseNodeId_isOk]
      · simp [view, h, Except.toOption]
    · rw [read_listen]
      refine round_iff (by simp [view]) ?_ fun endpoint h => ?_
      · simp [ValidRunValue]
      · simp [view, Except.ok.inj h]
    · rw [read_connect]
      refine round_iff (by simp [view]) ?_ fun endpoint h => ?_
      · simp [ValidRunValue]
      · simp [view, Except.ok.inj h]
    · rw [read_peer]
      refine round_iff (isNone_bind_iff fun v h => ?_) ?_ fun peer h => ?_
      · exact (parseNodeId_isOk v).mp ((hright _ v h).1 (.inr rfl))
      · simp [ValidRunValue, parseNodeId_isOk]
      · simp [view, h, Except.toOption]
    · rw [read_timeoutMs]
      refine round_iff (by simp [view]) ?_ fun timeoutMs h => ?_
      · simp [ValidRunValue, parseTimeoutMs_isOk]
      · simp [view, h, Except.toOption]
    · rw [read_deck]
      refine round_iff (isNone_bind_iff fun v h => ?_) ?_ fun deck h => ?_
      · exact (parseDeck_isOk v).mp ((hright _ v h).2.2.1 rfl)
      · simp [ValidRunValue, parseDeck_isOk]
      · simp [view, h, Except.toOption]
    · rw [read_provider]
      refine round_iff (by simp [view]) ?_ fun provider h => ?_
      · simp [ValidRunValue, parseProvider_isOk]
      · simp [view, h, Except.toOption]
  · rw [read_unknown _ _ hname]
    constructor
    · intro h
      cases h
    · rintro ⟨-, h, -⟩
      exact absurd h.1 hname

/-- The loop of `parse_run` reads settings that are given once. -/
def reader : Settings.Reader read where
  view := view
  accepts := RunSetting
  read_iff := read_iff

/-! ## The checks after the loop -/

theorem command_eq_ok_iff {options : RunOptions} {command : Command} :
    options.command = .ok command ↔ ∃ nodeId, options.nodeId = some nodeId ∧
      (options.providerWasSet → options.deck.isSome) ∧
      (options.connectEndpoint.isSome ↔ options.peer.isSome) ∧
      (options.timeoutWasSet → options.peer.isSome) ∧ options.peer ≠ some nodeId ∧
      command = .run nodeId options.listenEndpoint options.connectEndpoint options.peer
        options.timeoutMs options.deck options.provider := by
  obtain ⟨nodeId, listen, _, connect, peer, timeoutMs, timeoutWasSet, deck, provider,
    providerWasSet⟩ := options
  cases nodeId with
  | none => simp [RunOptions.command]
  | some nodeId =>
      have hdeck : ¬ (providerWasSet = true ∧ deck.isNone = true) ↔
          (providerWasSet = true → deck.isSome = true) := by
        cases deck <;> simp
      rw [RunOptions.command]
      dsimp only
      rw [Except.error_ite_eq_ok, hdeck]
      cases connect <;> cases peer <;>
        simp [Except.ite_error_eq_ok, Except.error_ite_eq_ok, eq_comm (b := command)]

end RunOptions

end Paraegox.Cli
