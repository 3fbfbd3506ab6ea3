import Paraegox.Agent.ServiceMetatheory

/-!
# When an operation is refused

`submit_turn` and `cancel` run their checks in an order with early returns, and
`ensure_session` writes between them.  From a well-formed state the order does
not show: an operation is refused exactly when one of its documented conditions
holds, and a session that is not yet known always has room.
-/

namespace Paraegox.Agent

/-- The service takes Turns. -/
def AgentState.Admitting (state : AgentState) : Prop :=
  state.lifecycle = .running ∧ state.activeProfile ≠ none

/-- The Turn has a terminal in the ledger of its session. -/
def AgentState.Recorded (state : AgentState) (s : SessionId) (t : TurnId) : Prop :=
  ∃ completed, state.completed? s t = some completed

/-- The Turns and tombstones a session holds. -/
def AgentState.held (state : AgentState) (s : SessionId) : Nat :=
  (state.session s).turns.length + (state.session s).pendingCancellations.length

/-- The documented conditions under which `submit_turn` is refused at admission. -/
def AgentState.RefusesTurn (state : AgentState) (s : SessionId) (t : TurnId) (input : String) :
    Prop :=
  state.lifecycle ≠ .running ∨
    state.activeProfile = none ∨
    (∃ completed, state.completed? s t = some completed ∧ completed.input ≠ input) ∨
    (¬ state.Recorded s t ∧ ¬ state.Tombstoned s t ∧ state.activeTurn ≠ none) ∨
    (¬ state.Recorded s t ∧ ¬ state.Tombstoned s t ∧
      MAX_RETAINED_TURNS_PER_SESSION ≤ state.held s)

/-- The documented condition under which `cancel` is refused. -/
def AgentState.RefusesCancel (state : AgentState) (s : SessionId) (t : TurnId) : Prop :=
  state.Admitting ∧ ¬ state.Recorded s t ∧ ¬ state.Active s t ∧ ¬ state.Tombstoned s t ∧
    MAX_RETAINED_TURNS_PER_SESSION ≤ state.held s + state.activeReservation s

/-- An error was returned to the caller. -/
def Report.IsErr (r : Report) : Prop := ∃ e, r = .failed (.error e)

/-- The errors about the room in a session or in the map. -/
def capacityErrors : List AgentError :=
  [⟨"Agent session terminal capacity is full; create a new Session"⟩,
    ⟨"no inactive Agent session can be evicted"⟩]

/-! ## Reading the conditions -/

theorem AgentState.not_recorded {state : AgentState} {s : SessionId} {t : TurnId} :
    ¬ state.Recorded s t ↔ state.completed? s t = none := by
  rw [Recorded]
  cases state.completed? s t <;> simp

theorem AgentState.length_occupied (state : AgentState) (s : SessionId) :
    (state.occupied s).length = state.held s + state.activeReservation s := by
  simp [occupied, SessionState.occupied, held]
  omega

theorem AgentState.length_occupied_of_idle {state : AgentState} (h : state.activeTurn = none)
    (s : SessionId) : (state.occupied s).length = state.held s := by
  rw [length_occupied, activeReservation, h]
  rfl

theorem AgentState.not_admitting {state : AgentState} :
    ¬ state.Admitting ↔ state.lifecycle ≠ .running ∨ state.activeProfile = none := by
  rw [Admitting, not_and_or, not_not]

/-- A session that is not in the map holds nothing. -/
theorem AgentState.WellFormed.unknown {state : AgentState} (h : state.WellFormed) {s : SessionId}
    (hs : s ∉ state.sessions) (t : TurnId) :
    state.completed? s t = none ∧ ¬ state.Tombstoned s t ∧ ¬ state.Active s t ∧
      state.held s = 0 ∧ state.activeReservation s = 0 := by
  have hidle : ∀ active, state.activeTurn = some active → active.sessionId ≠ s :=
    fun active ha heq => hs (heq ▸ h.activeOwned active ha)
  refine ⟨?_, fun ht => hs (mem_of_tombstoned ht), ?_, ?_, ?_⟩
  · simp [completed?, AList.lookup_eq_none.mpr hs]
  · rintro ⟨flag, ha⟩
    exact hidle _ ha rfl
  · simp [held, session_of_notMem hs]
  · rw [activeReservation]
    cases ha : state.activeTurn with
    | none => rfl
    | some active => simp [hidle active ha]

/-! ## Submission -/

/-- What `submit_turn` reports of its locked block. -/
def submitReport (s : SessionId) (t : TurnId) :
    EStateM.Result (Fault AgentError) AgentState Admission → Report
  | .ok (.settled terminal) _ => .turn ⟨s, t, terminal⟩
  | .ok (.admitted context) _ => .admitted context
  | .error fault _ => .failed fault

theorem World.submitTurn_report {w : World} (hup : w.upgrades = true) {input : String}
    {deadline : Duration} (hinput : validateInput input = .ok ())
    (hdeadline : validateTurnDeadline deadline = .ok ()) (task : TaskId) (s : SessionId)
    (t : TurnId) :
    (w.submitTurn task s t input deadline).1 =
      submitReport s t (EStateM.run (Agent.submitTurn s t input) w.state) := by
  simp only [submitTurn, hinput, hdeadline, hup, not_true_eq_false, ↓reduceIte, locked]
  cases EStateM.run (Agent.submitTurn s t input) w.state with
  | error fault state => rfl
  | ok admission state => cases admission <;> rfl

/-- Admission is refused exactly under the documented conditions. -/
theorem AdmissionCase.refused_iff {state : AgentState} {s : SessionId} {t : TurnId}
    {input : String} {result : EStateM.Result (Fault AgentError) AgentState Admission}
    (h : AdmissionCase state s t input result) :
    (submitReport s t result).IsErr ↔ state.RefusesTurn s t input := by
  rw [AgentState.RefusesTurn, AgentState.not_recorded]
  cases h with
  | notRunning hrun => simp [submitReport, Report.IsErr, hrun]
  | noProfile _ hp => simp [submitReport, Report.IsErr, hp]
  | conflict hrun hp hc hne => simp [submitReport, Report.IsErr, hc, hne]
  | replayed hrun hp hc heq => simp [submitReport, Report.IsErr, hrun, hp, hc, heq]
  | consumed hrun hp hc ht => simp [submitReport, Report.IsErr, hrun, hp, hc, ht]
  | busy hrun hp hc ht ha => simp [submitReport, Report.IsErr, hc, ht, ha]
  | full hrun hp hc ht hidle hfull =>
      rw [AgentState.length_occupied_of_idle hidle] at hfull
      simp [submitReport, Report.IsErr, hc, ht, hfull]
  | overflow hrun hp hc ht hidle hfree hb =>
      rw [AgentState.length_occupied_of_idle hidle] at hfree
      simp [submitReport, Report.IsErr, hrun, hp, hc, hidle, hfree]
  | admitted hrun hp hc ht hidle hfree hb =>
      rw [AgentState.length_occupied_of_idle hidle] at hfree
      simp [submitReport, Report.IsErr, hrun, hp, hc, hidle, hfree]

/-! ## Cancellation -/

/-- A service that does not take Turns leaves no tombstone. -/
theorem cancel_closed {state : AgentState} {s : SessionId} {t : TurnId}
    (hc : state.completed? s t = none) (ha : ¬ state.Active s t)
    (hclosed : ¬ state.Admitting) : EStateM.run (cancel s t) state = .ok .notActive state := by
  have hany : ¬ (state.activeTurn.any fun active => active.is s t) = true :=
    fun hany => ha (AgentState.any_active.mp hany)
  have hopen : state.lifecycle ≠ .running ∨ state.activeProfile.isNone :=
    (AgentState.not_admitting.mp hclosed).imp_right Option.isNone_iff_eq_none.mpr
  simp only [cancel, EStateM.run_bind, EStateM.run_get, hc, hany, Bool.false_eq_true, hopen,
    ↓reduceIte, EStateM.run_pure]

/-- What `cancel` reports of its locked block. -/
def cancelReport (s : SessionId) (t : TurnId) :
    EStateM.Result (Fault AgentError) AgentState CancelResult → Report
  | .ok result _ => .cancel s t result
  | .error fault _ => .failed fault

theorem World.cancel_report {w : World} (hup : w.upgrades = true) (s : SessionId) (t : TurnId) :
    (w.cancel s t).1 = cancelReport s t (EStateM.run (Agent.cancel s t) w.state) := by
  simp only [cancel, hup, not_true_eq_false, ↓reduceIte, locked]
  cases EStateM.run (Agent.cancel s t) w.state <;> rfl

/-- A cancellation is refused exactly under the documented condition. -/
theorem AgentState.WellFormed.cancel_refused_iff {state : AgentState} (h : state.WellFormed)
    (s : SessionId) (t : TurnId) :
    (cancelReport s t (EStateM.run (cancel s t) state)).IsErr ↔ state.RefusesCancel s t := by
  have hcase := cancel_case h s t
  have hclosed := @cancel_closed state s t
  rw [RefusesCancel, not_recorded]
  generalize EStateM.run (cancel s t) state = result at hcase hclosed
  cases hcase with
  | alreadyTerminal hc => simp [cancelReport, Report.IsErr, hc]
  | flagged hc ha => simp [cancelReport, Report.IsErr, ha]
  | notActive _ _ hno =>
      have : ¬ state.Admitting := not_admitting.mpr hno
      simp [cancelReport, Report.IsErr, this]
  | pending _ _ _ ht => simp [cancelReport, Report.IsErr, ht]
  | full hc ha ht hfull =>
      have hadm : state.Admitting := by
        by_contra hno
        cases hclosed hc ha hno
      rw [length_occupied] at hfull
      simp [cancelReport, Report.IsErr, hadm, hc, ha, ht, hfull]
  | tombstoned _ _ _ _ hfree =>
      rw [length_occupied] at hfree
      simp [cancelReport, Report.IsErr, Nat.not_le.mpr hfree]

/-! ## The refusals of a reachable service -/

theorem AdmissionCase.not_capacity {state : AgentState} (h : state.WellFormed) {s : SessionId}
    (hs : s ∉ state.sessions) {t : TurnId} {input : String}
    {result : EStateM.Result (Fault AgentError) AgentState Admission}
    (hcase : AdmissionCase state s t input result) :
    ∀ e ∈ capacityErrors, submitReport s t result ≠ .failed (.error e) := by
  intro e he heq
  cases hcase with
  | full _ _ _ _ _ hfull => exact hs (h.mem_of_full hfull)
  | replayed _ _ _ _ => cases heq
  | consumed _ _ _ _ => cases heq
  | overflow _ _ _ _ _ _ _ => cases heq
  | admitted _ _ _ _ _ _ _ => cases heq
  | _ =>
      cases heq
      revert he
      decide

/-- In every reachable state `submit_turn` and `cancel` are refused exactly under
their documented conditions, and never for want of room in an unknown session. -/
theorem World.Reachable.refused_exactly {w : World} (h : w.Reachable) (hup : w.upgrades = true)
    (s : SessionId) (t : TurnId) :
    (∀ task input deadline, validateInput input = .ok () →
      validateTurnDeadline deadline = .ok () →
      ((w.submitTurn task s t input deadline).1.IsErr ↔ w.state.RefusesTurn s t input) ∧
      (s ∉ w.state.sessions → ∀ e ∈ capacityErrors,
        (w.submitTurn task s t input deadline).1 ≠ .failed (.error e))) ∧
    ((w.cancel s t).1.IsErr ↔ w.state.RefusesCancel s t) ∧
    (s ∉ w.state.sessions → ¬ (w.cancel s t).1.IsErr) := by
  have hwf := h.inv.wellFormed
  have hcancel : (w.cancel s t).1.IsErr ↔ w.state.RefusesCancel s t := by
    rw [w.cancel_report hup]
    exact hwf.cancel_refused_iff s t
  refine ⟨fun task input deadline hinput hdeadline => ?_, hcancel, fun hs herr => ?_⟩
  · rw [w.submitTurn_report hup hinput hdeadline]
    have hcase := submitTurn_case hwf s t input
    exact ⟨hcase.refused_iff, fun hs => hcase.not_capacity hwf hs⟩
  · obtain ⟨-, -, -, hheld, hactive⟩ := hwf.unknown hs t
    obtain ⟨-, -, -, -, hfull⟩ := hcancel.mp herr
    rw [hheld, hactive] at hfull
    cases hfull

/-- A busy service refuses a second Turn and takes its cancellation. -/
theorem World.Reachable.refused_exactly_busy :
    ∃ w : World, (∀ task, (w.submitTurn task ⟨⟨1⟩⟩ ⟨⟨3⟩⟩ "beta" 1).1.IsErr) ∧
      ¬ (w.cancel ⟨⟨1⟩⟩ ⟨⟨3⟩⟩).1.IsErr := by
  obtain ⟨tr, w, hrun, -, hw⟩ := service.exec_any (World.created .deterministic)
    [.start, .activateProfile ⟨⟨1⟩⟩ ⟨BUILTIN_AGENT_DEFINITION⟩ "prompt",
      .submitTurn 0 ⟨⟨1⟩⟩ ⟨⟨2⟩⟩ "alpha" 1]
    (fun q => q.2.upgrades = true ∧ q.2.state.completed? ⟨⟨1⟩⟩ ⟨⟨3⟩⟩ = none ∧
      ¬ q.2.state.Tombstoned ⟨⟨1⟩⟩ ⟨⟨3⟩⟩ ∧ q.2.state.activeTurn ≠ none ∧
      q.2.state.held ⟨⟨1⟩⟩ + q.2.state.activeReservation ⟨⟨1⟩⟩ < 32) (by decide +kernel)
  obtain ⟨hup, hc, ht, ha, hfree⟩ := of_decide_eq_true hw
  obtain ⟨hsubmit, hcancel, -⟩ := World.Reachable.refused_exactly ⟨_, tr, hrun⟩ hup ⟨⟨1⟩⟩ ⟨⟨3⟩⟩
  refine ⟨w, fun task => ?_, fun herr => ?_⟩
  · exact (hsubmit task "beta" 1 (by decide) (by decide)).1.mpr
      (.inr (.inr (.inr (.inl ⟨AgentState.not_recorded.mpr hc, ht, ha⟩))))
  · obtain ⟨-, -, -, -, hfull⟩ := hcancel.mp herr
    exact absurd hfull (Nat.not_le.mpr hfree)

end Paraegox.Agent
