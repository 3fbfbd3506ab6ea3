import Paraegox.Cli.RunOptions

/-!
# The options of `node probe` and of `tui`

Both parsers read the same three options.  `parse_tui` knows a flag besides, a setting
without a value, which it keeps apart from them.
-/

namespace Paraegox.Cli

/-- A known option of `parse_probe` and `parse_tui`, with a value that is right for it. -/
def TargetSetting (name value : String) : Prop :=
  name ∈ TARGET_OPTIONS ∧ (name = "--target" → NodeId.Valid value) ∧
    (name = "--timeout-ms" → ∃ ms, parseU64 value = some ms ∧ 100 ≤ ms ∧ ms ≤ 60000)

namespace TargetOptions

/-- The record that shows what was given. -/
def view (timeoutMs : Nat) (given : String → Option String) : TargetOptions where
  target := (given "--target").bind fun value => (parseNodeId value).toOption
  connectEndpoint := (given "--connect").getD DEFAULT_ENDPOINT
  timeoutMs := ((given "--timeout-ms").bind fun value => (parseTimeoutMs value).toOption).getD
    timeoutMs
  connectWasSet := (given "--connect").isSome
  timeoutWasSet := (given "--timeout-ms").isSome

section

variable (scope : String) (options : TargetOptions) (value : String)

theorem read_target : options.read scope "--target" value =
    if options.target.isNone then
      (do return { options with target := some (← parseNodeId value) })
    else .error "duplicate option `--target`" := by
  unfold read
  by_cases h : options.target.isNone <;> simp [h, TARGET_OPTIONS]

theorem read_connect : options.read scope "--connect" value =
    if ¬ options.connectWasSet then
      (do return { options with connectEndpoint := ← .ok value, connectWasSet := true })
    else .error "duplicate option `--connect`" := by
  unfold read
  by_cases h : options.connectWasSet
  · simp [h, TARGET_OPTIONS]
  · simp [h]
    rfl

theorem read_timeoutMs : options.read scope "--timeout-ms" value =
    if ¬ options.timeoutWasSet then
      (do return { options with timeoutMs := ← parseTimeoutMs value, timeoutWasSet := true })
    else .error "duplicate option `--timeout-ms`" := by
  unfold read
  by_cases h : options.timeoutWasSet <;> simp [h, TARGET_OPTIONS]

/-- An option the two parsers do not know. -/
theorem read_unknown {name : String} (h : name ∉ TARGET_OPTIONS) :
    options.read scope name value =
      .error ("unknown " ++ scope ++ " option `" ++ name ++ "`") := by
  have hne : ∀ known ∈ TARGET_OPTIONS, name ≠ known := by
    rintro known hknown rfl
    exact h hknown
  simp only [TARGET_OPTIONS, List.forall_mem_cons] at hne
  simp [read, hne, h]

end

/-- A round shows what was given before, and takes no option twice. -/
theorem read_iff (scope : String) (timeoutMs : Nat) {given : String → Option String}
    (hgiven : ∀ name value, given name = some value → TargetSetting name value)
    (name value : String) (options : TargetOptions) :
    (view timeoutMs given).read scope name value = .ok options ↔
      given name = none ∧ TargetSetting name value ∧
        options = view timeoutMs (Function.update given name (some value)) := by
  by_cases hname : name ∈ TARGET_OPTIONS
  · rw [TargetSetting, and_iff_right hname]
    simp only [TARGET_OPTIONS, List.mem_cons, List.not_mem_nil, or_false] at hname
    rcases hname with rfl | rfl | rfl
    · rw [read_target]
      refine round_iff (isNone_bind_iff fun v h => ?_) ?_ fun target h => ?_
      · exact (parseNodeId_isOk v).mp ((hgiven _ v h).2.1 rfl)
      · simp [parseNodeId_isOk]
      · simp [view, h, Except.toOption]
    · rw [read_connect]
      refine round_iff (by simp [view]) ?_ fun endpoint h => ?_
      · simp
      · simp [view, Except.ok.inj h]
    · rw [read_timeoutMs]
      refine round_iff (by simp [view]) ?_ fun timeoutMs h => ?_
      · simp [parseTimeoutMs_isOk]
      · simp [view, h, Except.toOption]
  · rw [read_unknown _ _ _ hname]
    constructor
    · intro h
      cases h
    · rintro ⟨-, h, -⟩
      exact absurd h.1 hname

/-- The loop of `parse_probe` reads settings that are given once. -/
def reader (scope : String) (timeoutMs : Nat) : Settings.Reader (read scope) where
  view := view timeoutMs
  accepts := TargetSetting
  read_iff := read_iff scope timeoutMs

end TargetOptions

/-! ## The flag -/

/-- A known option of `parse_tui`: the flag, or one with a value. -/
def TuiSetting (name : String) : Option String → Prop
  | none => name = "--stdio-jsonl"
  | some value => TargetSetting name value

theorem TargetSetting.ne_flag {name value : String} (h : TargetSetting name value) :
    name ≠ "--stdio-jsonl" := by
  rintro rfl
  exact absurd h.1 (by decide)

namespace TuiOptions

/-- One round of the loop of `parse_tui`, on the flag or on a pair. -/
def read (options : TuiOptions) (name : String) : Option String → Except String TuiOptions
  | none =>
      if name = "--stdio-jsonl" ∧ ¬ options.stdioJsonl then
        .ok { options with stdioJsonl := true }
      else .error "duplicate option `--stdio-jsonl`"
  | some value => do
      let target ← options.toTargetOptions.read "tui" name value
      return { options with toTargetOptions := target }

/-- What was given with a value. -/
def values (given : String → Option (Option String)) (name : String) : Option String :=
  (given name).join

def view (given : String → Option (Option String)) : TuiOptions where
  toTargetOptions := .view DEFAULT_TUI_TIMEOUT_MS (values given)
  stdioJsonl := (given "--stdio-jsonl").isSome

theorem values_update_some (given : String → Option (Option String)) (name value : String) :
    values (Function.update given name (some (some value))) =
      Function.update (values given) name (some value) := by
  funext n
  by_cases hn : n = name
  · subst hn
    simp [values]
  · simp [values, hn]

theorem values_update_none {given : String → Option (Option String)} {name : String}
    (h : given name = none) :
    values (Function.update given name (some none)) = values given := by
  funext n
  by_cases hn : n = name
  · subst hn
    simp [values, h]
  · simp [values, hn]

/-- A round shows what was given before, and takes no option twice. -/
theorem read_iff {given : String → Option (Option String)}
    (hgiven : ∀ name value, given name = some value → TuiSetting name value)
    (name : String) (value : Option String) (options : TuiOptions) :
    (view given).read name value = .ok options ↔
      given name = none ∧ TuiSetting name value ∧
        options = view (Function.update given name (some value)) := by
  cases value with
  | none =>
      rw [read, Except.ite_error_eq_ok, TuiSetting]
      constructor
      · rintro ⟨⟨rfl, hunset⟩, h⟩
        cases h
        have hnone : given "--stdio-jsonl" = none := by simpa [view] using hunset
        refine ⟨hnone, rfl, ?_⟩
        simp [view, values_update_none hnone]
      · rintro ⟨hnone, rfl, rfl⟩
        refine ⟨⟨rfl, by simp [view, hnone]⟩, ?_⟩
        simp [view, values_update_none hnone]
  | some value =>
      have hvalues : ∀ n v, values given n = some v → TargetSetting n v := by
        intro n v h
        exact hgiven n (some v) (Option.join_eq_some_iff.mp h)
      have hiff := TargetOptions.read_iff "tui" DEFAULT_TUI_TIMEOUT_MS hvalues name value
      have hunset (h : TargetSetting name value) :
          values given name = none ↔ given name = none := by
        rw [values]
        cases hvalue : given name with
        | none => simp
        | some v =>
            cases v with
            | none => exact absurd (hgiven name none hvalue) h.ne_flag
            | some v => simp
      have hview (h : TargetSetting name value) :
          view (Function.update given name (some (some value))) =
            { view given with
              toTargetOptions := .view DEFAULT_TUI_TIMEOUT_MS
                (Function.update (values given) name (some value)) } := by
        rw [view, values_update_some, Function.update_of_ne h.ne_flag.symm]
        rfl
      constructor
      · intro h
        obtain ⟨target, hread, hpure⟩ := Except.ok_of_bind h
        obtain ⟨hnone, hsetting, rfl⟩ := (hiff target).mp hread
        cases hpure
        exact ⟨(hunset hsetting).mp hnone, hsetting, (hview hsetting).symm⟩
      · rintro ⟨hnone, hsetting, rfl⟩
        have hread := (hiff _).mpr ⟨(hunset hsetting).mpr hnone, hsetting, rfl⟩
        have htarget : (view given).toTargetOptions =
            .view DEFAULT_TUI_TIMEOUT_MS (values given) := rfl
        rw [read, htarget, hread, hview hsetting]
        rfl

/-- The loop of `parse_tui` reads settings that are given once. -/
def reader : Settings.Reader read where
  view := view
  accepts := TuiSetting
  read_iff := read_iff

end TuiOptions

end Paraegox.Cli
