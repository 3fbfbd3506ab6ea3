import Paraegox.Agent.Blocks

/-!
# What an operation on the state decides

Admission and cancellation end in one of a few ways, each with its reason and
the state it leaves.  `AdmissionCase` and `CancelCase` list them, and a block run
on a well-formed state is in one of the cases (`submitTurn_case`,
`cancel_case`).  An operation that is refused leaves the state as it was, though
it may have run `ensure_session` before its last check.
-/

namespace Paraegox.Agent

open Paraegox.Runtime (CardInstanceId)

/-! ## Tombstones -/

/-- The Turn has a tombstone. -/
def AgentState.Tombstoned (state : AgentState) (s : SessionId) (t : TurnId) : Prop :=
  t ∈ (state.session s).pendingCancellations

instance (state : AgentState) (s : SessionId) (t : TurnId) : Decidable (state.Tombstoned s t) :=
  inferInstanceAs (Decidable (_ ∈ _))

theorem AgentState.mem_of_tombstoned {state : AgentState} {s : SessionId} {t : TurnId}
    (h : state.Tombstoned s t) : s ∈ state.sessions := by
  by_contra hs
  rw [Tombstoned, session_of_notMem hs] at h
  cases h

/-- A tombstone turned into its record. -/
def SessionState.consume (session : SessionState) (t : TurnId) (input : String) : SessionState :=
  { turns := session.turns ++ [⟨t, input, .cancelled⟩]
    pendingCancellations := session.pendingCancellations.erase t }

/-- A session with one more tombstone. -/
def SessionState.bury (session : SessionState) (t : TurnId) : SessionState :=
  { session with pendingCancellations := session.pendingCancellations ++ [t] }

theorem AgentState.completed?_eq (state : AgentState) (s : SessionId) (t : TurnId) :
    state.completed? s t = (state.session s).completed? t := by
  simp only [completed?, session]
  cases state.sessions.lookup s <;> rfl

theorem AgentState.tombstone?_eq_none {state : AgentState} {s : SessionId} {t : TurnId}
    (h : ¬ state.Tombstoned s t) : state.tombstone? s t = none := by
  rw [tombstone?]
  cases hl : state.sessions.lookup s with
  | none => rfl
  | some x =>
      rw [Tombstoned, session_of_lookup hl] at h
      rw [Option.bind_some, List.findIdx?_eq_none_iff.mpr fun u hu => by
        simpa using fun he : u = t => h (he ▸ hu)]
      rfl

theorem AgentState.tombstone?_eq_some {state : AgentState} {s : SessionId} {t : TurnId}
    (h : state.Tombstoned s t) :
    ∃ position, state.sessions.lookup s = some (state.session s) ∧
      state.tombstone? s t = some (state.session s, position) ∧
      (state.session s).pendingCancellations.eraseIdx position =
        (state.session s).pendingCancellations.erase t := by
  have hl := lookup_of_mem (mem_of_tombstoned h)
  have hfind : (state.session s).pendingCancellations.find? (fun u => u = t) = some t := by
    have hsome : ((state.session s).pendingCancellations.find? fun u => u = t).isSome :=
      List.find?_isSome.mpr ⟨t, h, by simp⟩
    obtain ⟨u, hu⟩ := Option.isSome_iff_exists.mp hsome
    have hut : u = t := by simpa using List.find?_some hu
    rw [hu, hut]
  obtain ⟨position, hi⟩ :
      ∃ i, (state.session s).pendingCancellations.findIdx? (fun u => u = t) = some i := by
    rw [List.find?_eq_bind_findIdx?_getElem?] at hfind
    obtain ⟨i, hi, -⟩ := Option.bind_eq_some_iff.mp hfind
    exact ⟨i, hi⟩
  refine ⟨position, hl, ?_, eraseIdx_findIdx? hi hfind⟩
  simp only [tombstone?, hl, Option.bind_some, hi, Option.map_some]

/-- A full session is in the map. -/
theorem AgentState.WellFormed.mem_of_full {state : AgentState} (h : state.WellFormed)
    {s : SessionId} (hfull : MAX_RETAINED_TURNS_PER_SESSION ≤ (state.occupied s).length) :
    s ∈ state.sessions := by
  by_contra hs
  have hnone : state.activeIds s = [] := by
    rw [activeIds]
    split
    · next active ha =>
        exact if_neg fun heq : active.sessionId = s => hs (heq ▸ h.activeOwned active ha)
    · rfl
  rw [occupied, session_of_notMem hs, hnone] at hfull
  exact absurd hfull (by decide)

theorem AgentState.turns_lt_of_free {state : AgentState} {s : SessionId}
    (h : (state.occupied s).length < MAX_RETAINED_TURNS_PER_SESSION) :
    (state.session s).turns.length < MAX_RETAINED_TURNS_PER_SESSION := by
  simp only [occupied, SessionState.occupied, List.length_append, List.length_map] at h
  omega

theorem AgentState.WellFormed.turns_lt_of_tombstoned {state : AgentState} (h : state.WellFormed)
    {s : SessionId} {t : TurnId} (ht : state.Tombstoned s t) :
    (state.session s).turns.length < MAX_RETAINED_TURNS_PER_SESSION := by
  have hb := (h.session_tidy s).bounded
  have hpos := List.length_pos_of_mem ht
  simp only [SessionState.occupied, List.length_append, List.length_map] at hb
  omega

/-! ## Admission -/

/-- How the locked block of `submit_turn` ends. -/
inductive AdmissionCase (state : AgentState) (s : SessionId) (t : TurnId) (input : String) :
    EStateM.Result (Fault AgentError) AgentState Admission → Prop where
  | notRunning : state.lifecycle ≠ .running →
      AdmissionCase state s t input
        (.error (.error ⟨"AgentService is not running"⟩) state)
  | noProfile : state.lifecycle = .running → state.activeProfile = none →
      AdmissionCase state s t input (.error (.error ⟨"no Agent Card is active"⟩) state)
  | conflict {profile : ActiveProfile} {completed : CompletedTurn} :
      state.lifecycle = .running → state.activeProfile = some profile →
      state.completed? s t = some completed → completed.input ≠ input →
      AdmissionCase state s t input
        (.error (.error ⟨"TurnId was already completed with different input"⟩) state)
  | replayed {profile : ActiveProfile} {completed : CompletedTurn} :
      state.lifecycle = .running → state.activeProfile = some profile →
      state.completed? s t = some completed → completed.input = input →
      AdmissionCase state s t input (.ok (.settled completed.terminal) state)
  | consumed {profile : ActiveProfile} :
      state.lifecycle = .running → state.activeProfile = some profile →
      state.completed? s t = none → state.Tombstoned s t →
      AdmissionCase state s t input
        (.ok (.settled .cancelled) (state.setSession s ((state.session s).consume t input)))
  | busy {profile : ActiveProfile} {active : ActiveTurn} :
      state.lifecycle = .running → state.activeProfile = some profile →
      state.completed? s t = none → ¬ state.Tombstoned s t → state.activeTurn = some active →
      AdmissionCase state s t input
        (.error (.error ⟨"AgentService is busy with another turn"⟩) state)
  | full {profile : ActiveProfile} :
      state.lifecycle = .running → state.activeProfile = some profile →
      state.completed? s t = none → ¬ state.Tombstoned s t → state.activeTurn = none →
      MAX_RETAINED_TURNS_PER_SESSION ≤ (state.occupied s).length →
      AdmissionCase state s t input
        (.error (.error ⟨"Agent session terminal capacity is full; create a new Session"⟩) state)
  | overflow {profile : ActiveProfile} {reason : TurnFailure} :
      state.lifecycle = .running → state.activeProfile = some profile →
      state.completed? s t = none → ¬ state.Tombstoned s t → state.activeTurn = none →
      (state.occupied s).length < MAX_RETAINED_TURNS_PER_SESSION →
      buildModelContext profile.systemPrompt (state.session s) input = .error reason →
      AdmissionCase state s t input
        (.ok (.settled (.failed reason))
          ((state.ensured s).setSession s ((state.session s).record t input (.failed reason))))
  | admitted {profile : ActiveProfile} {context : ModelContext} :
      state.lifecycle = .running → state.activeProfile = some profile →
      state.completed? s t = none → ¬ state.Tombstoned s t → state.activeTurn = none →
      (state.occupied s).length < MAX_RETAINED_TURNS_PER_SESSION →
      buildModelContext profile.systemPrompt (state.session s) input = .ok context →
      AdmissionCase state s t input
        (.ok (.admitted context) ((state.ensured s).setActive (some ⟨s, t, false⟩)))

theorem consumeCancellation_run {session : SessionState} {position : Nat} {t : TurnId}
    (hlen : session.turns.length < MAX_RETAINED_TURNS_PER_SESSION)
    (hpos : session.pendingCancellations.eraseIdx position =
      session.pendingCancellations.erase t) (state : AgentState) (s : SessionId)
    (input : String) :
    EStateM.run (consumeCancellation s session position t input) state =
      .ok (.settled .cancelled) (state.setSession s (session.consume t input)) := by
  have hlen' : ({ session with pendingCancellations := session.pendingCancellations.erase t } :
      SessionState).turns.length < MAX_RETAINED_TURNS_PER_SESSION := hlen
  simp only [consumeCancellation, EStateM.run_bind, EStateM.run_modify, hpos,
    recordCompletedTurn_run hlen', EStateM.run_pure]
  simp [AgentState.setSession, SessionState.record, SessionState.consume, AList.insert_insert]

theorem admitTurn_run {state : AgentState} (h : state.WellFormed)
    (hidle : state.activeTurn = none) {profile : ActiveProfile}
    (hp : state.activeProfile = some profile) {s : SessionId}
    (hfree : (state.occupied s).length < MAX_RETAINED_TURNS_PER_SESSION) (t : TurnId)
    (input : String) :
    EStateM.run (admitTurn s t input) state =
      match buildModelContext profile.systemPrompt (state.session s) input with
      | .error reason => .ok (.settled (.failed reason))
          ((state.ensured s).setSession s ((state.session s).record t input (.failed reason)))
      | .ok context =>
          .ok (.admitted context) ((state.ensured s).setActive (some ⟨s, t, false⟩)) := by
  have hslot : EStateM.run (ensureTurnSlot s) (state.ensured s) = .ok () (state.ensured s) := by
    rw [ensureTurnSlot_run (state.lookup_ensured_self s), AgentState.ensured_activeIds]
    exact if_neg (Nat.not_le.mpr hfree)
  have hp' : (state.ensured s).activeProfile = some profile := by
    rw [AgentState.ensured_activeProfile, hp]
  simp only [admitTurn, EStateM.run_bind, EStateM.run_get, hidle, Option.isSome_none,
    Bool.false_eq_true, ↓reduceIte, ensureSession_run h, hslot]
  rw [hp', AgentState.lookup_ensured_self]
  simp only [Exec.run_expect_some]
  cases hc : buildModelContext profile.systemPrompt (state.session s) input with
  | error reason =>
      simp only [EStateM.run_bind, recordCompletedTurn_run (AgentState.turns_lt_of_free hfree),
        EStateM.run_pure]
  | ok context =>
      rw [← hp']
      rfl

theorem admitTurn_full {state : AgentState} (h : state.WellFormed)
    (hidle : state.activeTurn = none) {s : SessionId}
    (hfull : MAX_RETAINED_TURNS_PER_SESSION ≤ (state.occupied s).length) (t : TurnId)
    (input : String) :
    EStateM.run (admitTurn s t input) state =
      .error (.error ⟨"Agent session terminal capacity is full; create a new Session"⟩) state := by
  have hens : state.ensured s = state := AgentState.ensured_of_mem (h.mem_of_full hfull)
  have hslot := ensureTurnSlot_run (AgentState.lookup_of_mem (h.mem_of_full hfull))
  rw [AgentState.occupied] at hfull
  rw [if_pos hfull] at hslot
  simp only [admitTurn, EStateM.run_bind, EStateM.run_get, hidle, Option.isSome_none,
    Bool.false_eq_true, ↓reduceIte, ensureSession_run h, hens, hslot]

theorem submitTurn_case {state : AgentState} (h : state.WellFormed) (s : SessionId) (t : TurnId)
    (input : String) :
    AdmissionCase state s t input (EStateM.run (submitTurn s t input) state) := by
  by_cases hrun : state.lifecycle = .running
  swap
  · have : EStateM.run (submitTurn s t input) state =
        .error (.error ⟨"AgentService is not running"⟩) state := by
      simp [submitTurn, requireAdmission, hrun]
    exact this ▸ .notRunning hrun
  cases hp : state.activeProfile with
  | none =>
      have : EStateM.run (submitTurn s t input) state =
          .error (.error ⟨"no Agent Card is active"⟩) state := by
        simp [submitTurn, requireAdmission, hrun, hp]
      exact this ▸ .noProfile hrun hp
  | some profile =>
      have hadm : EStateM.run requireAdmission state = .ok () state := by
        simp [requireAdmission, hrun, hp]
      simp only [submitTurn, EStateM.run_bind, hadm, EStateM.run_get]
      cases hc : state.completed? s t with
      | some completed =>
          by_cases hin : completed.input = input
          · simp only [replayTurn, hin, ne_eq, not_true_eq_false, ↓reduceIte, EStateM.run_pure]
            exact .replayed hrun hp hc hin
          · simp only [replayTurn, hin, ne_eq, not_false_eq_true, ↓reduceIte, Exec.run_fail]
            exact .conflict hrun hp hc hin
      | none =>
          by_cases ht : state.Tombstoned s t
          · obtain ⟨position, -, hts, hpos⟩ := AgentState.tombstone?_eq_some ht
            simp only [hts, consumeCancellation_run (h.turns_lt_of_tombstoned ht) hpos]
            exact .consumed hrun hp hc ht
          · simp only [AgentState.tombstone?_eq_none ht]
            cases ha : state.activeTurn with
            | some active =>
                have : EStateM.run (admitTurn s t input) state =
                    .error (.error ⟨"AgentService is busy with another turn"⟩) state := by
                  simp [admitTurn, ha]
                exact this ▸ .busy hrun hp hc ht ha
            | none =>
                by_cases hfull : MAX_RETAINED_TURNS_PER_SESSION ≤ (state.occupied s).length
                · exact admitTurn_full h ha hfull t input ▸ .full hrun hp hc ht ha hfull
                · have hfree := Nat.lt_of_not_le hfull
                  rw [admitTurn_run h ha hp hfree]
                  cases hb : buildModelContext profile.systemPrompt (state.session s) input with
                  | error reason => exact .overflow hrun hp hc ht ha hfree hb
                  | ok context => exact .admitted hrun hp hc ht ha hfree hb

/-! ## Cancellation -/

/-- The Turn is the active one. -/
def AgentState.Active (state : AgentState) (s : SessionId) (t : TurnId) : Prop :=
  ∃ flag, state.activeTurn = some ⟨s, t, flag⟩

theorem AgentState.any_active {state : AgentState} {s : SessionId} {t : TurnId} :
    (state.activeTurn.any fun active => active.is s t) = true ↔ state.Active s t := by
  rw [Active]
  cases ha : state.activeTurn with
  | none => simp
  | some active =>
      obtain ⟨s', t', flag⟩ := active
      simp [ActiveTurn.is]

/-- How the locked block of `cancel` ends. -/
inductive CancelCase (state : AgentState) (s : SessionId) (t : TurnId) :
    EStateM.Result (Fault AgentError) AgentState CancelResult → Prop where
  | alreadyTerminal {completed : CompletedTurn} :
      state.completed? s t = some completed →
      CancelCase state s t (.ok (.alreadyTerminal completed.terminal) state)
  | flagged : state.completed? s t = none → state.Active s t →
      CancelCase state s t (.ok .cancellationRequested state.cancelActiveTurn)
  | notActive : state.completed? s t = none → ¬ state.Active s t →
      state.lifecycle ≠ .running ∨ state.activeProfile = none →
      CancelCase state s t (.ok .notActive state)
  | pending : state.completed? s t = none → ¬ state.Active s t → state.lifecycle = .running →
      state.Tombstoned s t → CancelCase state s t (.ok .cancellationRequested state)
  | full : state.completed? s t = none → ¬ state.Active s t → ¬ state.Tombstoned s t →
      MAX_RETAINED_TURNS_PER_SESSION ≤ (state.occupied s).length →
      CancelCase state s t
        (.error (.error ⟨"Agent session terminal capacity is full; create a new Session"⟩) state)
  | tombstoned : state.completed? s t = none → ¬ state.Active s t → state.lifecycle = .running →
      ¬ state.Tombstoned s t → (state.occupied s).length < MAX_RETAINED_TURNS_PER_SESSION →
      CancelCase state s t
        (.ok .cancellationRequested ((state.ensured s).setSession s ((state.session s).bury t)))

/-- `place_cancellation` on a session with a free slot. -/
theorem placeCancellation_free {state : AgentState} (h : state.WellFormed) {s : SessionId}
    {t : TurnId} (ht : ¬ state.Tombstoned s t)
    (hfree : (state.occupied s).length < MAX_RETAINED_TURNS_PER_SESSION) :
    EStateM.run (placeCancellation s t) state =
      .ok .cancellationRequested ((state.ensured s).setSession s ((state.session s).bury t)) := by
  have hslot : EStateM.run (ensureTurnSlot s) (state.ensured s) = .ok () (state.ensured s) := by
    rw [ensureTurnSlot_run (state.lookup_ensured_self s), AgentState.ensured_activeIds]
    exact if_neg (Nat.not_le.mpr hfree)
  have ht' : t ∉ (state.session s).pendingCancellations := ht
  simp only [placeCancellation, EStateM.run_bind, ensureSession_run h, EStateM.run_get,
    AgentState.lookup_ensured_self, Exec.run_expect_some, ht', ↓reduceIte, hslot]
  rfl

theorem placeCancellation_full {state : AgentState} (h : state.WellFormed) {s : SessionId}
    {t : TurnId} (ht : ¬ state.Tombstoned s t)
    (hfull : MAX_RETAINED_TURNS_PER_SESSION ≤ (state.occupied s).length) :
    EStateM.run (placeCancellation s t) state =
      .error (.error ⟨"Agent session terminal capacity is full; create a new Session"⟩) state := by
  have hl := AgentState.lookup_of_mem (h.mem_of_full hfull)
  have hens : state.ensured s = state := AgentState.ensured_of_mem (h.mem_of_full hfull)
  have hslot := ensureTurnSlot_run hl
  rw [AgentState.occupied] at hfull
  rw [if_pos hfull] at hslot
  have ht' : t ∉ (state.session s).pendingCancellations := ht
  simp only [placeCancellation, EStateM.run_bind, ensureSession_run h, hens, EStateM.run_get, hl,
    Exec.run_expect_some, ht', ↓reduceIte, hslot]

theorem placeCancellation_pending {state : AgentState} (h : state.WellFormed) {s : SessionId}
    {t : TurnId} (ht : state.Tombstoned s t) :
    EStateM.run (placeCancellation s t) state = .ok .cancellationRequested state := by
  have hs := AgentState.mem_of_tombstoned ht
  have ht' : t ∈ (state.session s).pendingCancellations := ht
  simp only [placeCancellation, EStateM.run_bind, ensureSession_run h,
    AgentState.ensured_of_mem hs, EStateM.run_get, AgentState.lookup_of_mem hs,
    Exec.run_expect_some, ht', ↓reduceIte]
  rfl

theorem cancel_case {state : AgentState} (h : state.WellFormed) (s : SessionId) (t : TurnId) :
    CancelCase state s t (EStateM.run (cancel s t) state) := by
  simp only [cancel, EStateM.run_bind, EStateM.run_get]
  cases hc : state.completed? s t with
  | some completed => exact .alreadyTerminal hc
  | none =>
      by_cases ha : state.Active s t
      · simp only [AgentState.any_active.mpr ha, ↓reduceIte]
        exact .flagged hc ha
      · have hany : ¬ (state.activeTurn.any fun active => active.is s t) = true :=
          fun hany => ha (AgentState.any_active.mp hany)
        simp only [hany, Bool.false_eq_true, ↓reduceIte]
        by_cases hopen : state.lifecycle ≠ .running ∨ state.activeProfile.isNone
        · simp only [hopen, ↓reduceIte, EStateM.run_pure]
          exact .notActive hc ha (hopen.imp_right Option.isNone_iff_eq_none.mp)
        · simp only [hopen, ↓reduceIte]
          have hrun : state.lifecycle = .running := by
            by_contra hne
            exact hopen (.inl hne)
          by_cases ht : state.Tombstoned s t
          · exact placeCancellation_pending h ht ▸ .pending hc ha hrun ht
          · by_cases hfull : MAX_RETAINED_TURNS_PER_SESSION ≤ (state.occupied s).length
            · exact placeCancellation_full h ht hfull ▸ .full hc ha ht hfull
            · have hfree := Nat.lt_of_not_le hfull
              exact placeCancellation_free h ht hfree ▸ .tombstoned hc ha hrun ht hfree

/-! ## The guard -/

/-- The active Turn leaves its slot with a terminal. -/
def AgentState.settle (state : AgentState) (s : SessionId) (t : TurnId) (input : String)
    (terminal : TurnTerminal) : AgentState :=
  (state.setActive none).setSession s ((state.session s).record t input terminal)

/-- A cancellation, a stop or a lost profile overrides what was proposed. -/
def AgentState.verdict (state : AgentState) (proposed : TurnTerminal) : TurnTerminal :=
  if state.activeTurn.any ActiveTurn.cancellation ∨ state.lifecycle ≠ .running ∨
      state.activeProfile.isNone then .cancelled
  else proposed

theorem AgentState.WellFormed.active_lookup {state : AgentState} (h : state.WellFormed)
    {s : SessionId} {t : TurnId} (ha : state.Active s t) :
    state.sessions.lookup s = some (state.session s) ∧
      (state.session s).turns.length < MAX_RETAINED_TURNS_PER_SESSION := by
  obtain ⟨flag, ha⟩ := ha
  refine ⟨lookup_of_mem (h.activeOwned _ ha), ?_⟩
  have ht := h.session_tidy s
  simp only [activeIds, ha, ↓reduceIte] at ht
  exact ht.turns_lt

theorem ActiveTurnGuard.complete_run {state : AgentState} (h : state.WellFormed)
    {guard : ActiveTurnGuard} (ha : state.Active guard.sessionId guard.turnId)
    (proposed : TurnTerminal) :
    EStateM.run (guard.complete proposed) state =
      .ok (state.verdict proposed)
        (state.settle guard.sessionId guard.turnId guard.input (state.verdict proposed)) := by
  obtain ⟨hl, hlen⟩ := h.active_lookup ha
  obtain ⟨flag, hact⟩ := ha
  have hverdict : state.verdict proposed =
      if flag ∨ state.lifecycle ≠ .running ∨ state.activeProfile.isNone then .cancelled
      else proposed := by
    simp [AgentState.verdict, hact]
  simp only [complete, EStateM.run_bind, EStateM.run_get, hact, ActiveTurn.is, and_self,
    decide_true, not_true_eq_false, ↓reduceIte, EStateM.run_set, hl, Exec.run_expect_some,
    recordCompletedTurn_run hlen, EStateM.run_pure, ← hverdict]
  rfl

theorem ActiveTurnGuard.drop_run {state : AgentState} (h : state.WellFormed)
    {guard : ActiveTurnGuard} (ha : state.Active guard.sessionId guard.turnId) :
    EStateM.run guard.drop state =
      .ok true (state.settle guard.sessionId guard.turnId guard.input .cancelled) := by
  obtain ⟨hl, hlen⟩ := h.active_lookup ha
  simp only [drop, EStateM.run_bind, EStateM.run_get, AgentState.any_active.mpr ha, ↓reduceIte,
    EStateM.run_set, hl, recordCompletedTurn_run hlen, EStateM.run_pure]
  rfl

/-! ## The profile -/

theorem activateProfile_run (state : AgentState) (c : CardInstanceId) (prompt : String) :
    EStateM.run (activateProfile c prompt) state =
      if state.lifecycle ≠ .running then
        .error (.error ⟨"AgentService is not running"⟩) state
      else if state.activeProfile.isSome then
        .error (.error ⟨"an Agent profile is already active"⟩) state
      else .ok () { state with activeProfile := some ⟨c, prompt⟩ } := by
  simp only [activateProfile, EStateM.run_bind, EStateM.run_get]
  split_ifs <;> rfl

end Paraegox.Agent
