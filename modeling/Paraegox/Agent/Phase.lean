import Paraegox.Agent.Operations
import Paraegox.Lib.Settlement

/-!
# How the state moves and how a Turn settles

`AgentState.Step` is everything the lock ever sees: seven ways for one state to
follow another.  Each keeps the representation invariant, and none lowers the
settlement of a Turn of a session that is still in the map.  A cancellation that
is acknowledged dooms the Turn, and a doomed Turn can only end `Cancelled`.
-/

namespace Paraegox.Agent

/-! ## Steps of the state -/

/-- One state follows another. -/
inductive AgentState.Step (state : AgentState) : AgentState → Prop where
  /-- Lifecycle, profile and cancellation flag; the flag is only ever raised. -/
  | governed {state' : AgentState} : state'.sessions = state.sessions →
      state'.sessionOrder = state.sessionOrder →
      state'.activeTurn = state.activeTurn ∨
        state'.activeTurn = state.cancelActiveTurn.activeTurn → Step state state'
  | tombstoned {s : SessionId} {t : TurnId} : state.completed? s t = none →
      ¬ state.Active s t → ¬ state.Tombstoned s t →
      (state.occupied s).length < MAX_RETAINED_TURNS_PER_SESSION →
      Step state ((state.ensured s).setSession s ((state.session s).bury t))
  | consumed {s : SessionId} {t : TurnId} {input : String} : state.completed? s t = none →
      state.Tombstoned s t → Step state (state.setSession s ((state.session s).consume t input))
  | overflowed {s : SessionId} {t : TurnId} {input : String} {reason : TurnFailure} :
      state.completed? s t = none → ¬ state.Tombstoned s t → state.activeTurn = none →
      (state.occupied s).length < MAX_RETAINED_TURNS_PER_SESSION →
      Step state
        ((state.ensured s).setSession s ((state.session s).record t input (.failed reason)))
  | admitted {s : SessionId} {t : TurnId} : state.completed? s t = none →
      ¬ state.Tombstoned s t → state.activeTurn = none →
      (state.occupied s).length < MAX_RETAINED_TURNS_PER_SESSION →
      Step state ((state.ensured s).setActive (some ⟨s, t, false⟩))
  | settled {s : SessionId} {t : TurnId} {flag : Bool} {input : String}
      {terminal : TurnTerminal} : state.activeTurn = some ⟨s, t, flag⟩ →
      (flag = true → terminal = .cancelled) → Step state (state.settle s t input terminal)

/-! ## The slots a step fills -/

theorem SessionState.completed?_eq_none {session : SessionState} {t : TurnId} :
    session.completed? t = none ↔ t ∉ session.turns.map CompletedTurn.turnId := by
  simp [completed?]

@[simp] theorem SessionState.completed?_record (session : SessionState) (t t' : TurnId)
    (input : String) (terminal : TurnTerminal) :
    (session.record t input terminal).completed? t' =
      (session.completed? t').or (if t = t' then some ⟨t, input, terminal⟩ else none) := by
  simp [record, completed?, List.find?_append, List.find?_singleton]

@[simp] theorem SessionState.completed?_consume (session : SessionState) (t t' : TurnId)
    (input : String) :
    (session.consume t input).completed? t' =
      (session.completed? t').or (if t = t' then some ⟨t, input, .cancelled⟩ else none) := by
  simp [consume, completed?, List.find?_append, List.find?_singleton]

@[simp] theorem SessionState.completed?_bury (session : SessionState) (t t' : TurnId) :
    (session.bury t).completed? t' = session.completed? t' := rfl

theorem AgentState.notMem_occupied {state : AgentState} {s : SessionId} {t : TurnId} :
    t ∉ state.occupied s ↔
      state.completed? s t = none ∧ ¬ state.Tombstoned s t ∧ ¬ state.Active s t := by
  have hact : t ∈ state.activeIds s ↔ state.Active s t := by
    simp only [activeIds, Active]
    cases ha : state.activeTurn with
    | none => simp
    | some active =>
        obtain ⟨s', t', flag⟩ := active
        by_cases hs : s' = s
        · simp [hs, eq_comm]
        · simp [hs]
  rw [completed?_eq, SessionState.completed?_eq_none]
  simp only [occupied, SessionState.occupied, List.mem_append, hact, Tombstoned, not_or, and_assoc]

/-- The active Turn is neither recorded nor tombstoned. -/
theorem AgentState.WellFormed.active_free {state : AgentState} (h : state.WellFormed)
    {s : SessionId} {t : TurnId} (ha : state.Active s t) :
    state.completed? s t = none ∧ ¬ state.Tombstoned s t := by
  obtain ⟨flag, ha⟩ := ha
  have hnd := (h.session_tidy s).distinct
  have hids : state.activeIds s = [t] := by simp [activeIds, ha]
  rw [SessionState.occupied, hids, List.nodup_append_comm, List.singleton_append,
    List.nodup_cons, List.mem_append, not_or] at hnd
  rw [completed?_eq, SessionState.completed?_eq_none]
  exact hnd.1

/-- A tombstoned Turn is not recorded. -/
theorem AgentState.WellFormed.tombstoned_free {state : AgentState} (h : state.WellFormed)
    {s : SessionId} {t : TurnId} (ht : state.Tombstoned s t) : state.completed? s t = none := by
  have hnd := (h.session_tidy s).distinct.sublist (List.sublist_append_left _ _)
  rw [completed?_eq, SessionState.completed?_eq_none]
  exact fun hm => List.disjoint_of_nodup_append hnd hm ht

/-! ## The representation invariant -/

theorem AgentState.WellFormed.step {state state' : AgentState} (h : state.WellFormed)
    (hstep : state.Step state') : state'.WellFormed := by
  cases hstep with
  | governed hs ho ha =>
      refine h.congr hs ho ?_
      rcases ha with ha | ha
      · rw [ha]
      · rw [ha]
        simp [cancelActiveTurn, Option.map_map, Function.comp_def]
  | @tombstoned s t hc ha ht hfree =>
      refine (h.ensured s).setSession (state.mem_ensured_self s) ?_
      rw [ensured_activeIds]
      refine (h.session_tidy s).add (notMem_occupied.mpr ⟨hc, ht, ha⟩) hfree ?_
      simp only [SessionState.occupied, SessionState.bury]
      rw [← List.append_assoc, List.append_assoc _ [t]]
      exact List.perm_middle.symm
  | @consumed s t input hc ht =>
      refine h.setSession (mem_of_tombstoned ht) ((h.session_tidy s).perm ?_)
      simp only [SessionState.occupied, SessionState.consume, List.map_append, List.map_cons,
        List.map_nil]
      refine List.Perm.append_right _ ?_
      rw [List.append_assoc]
      exact List.Perm.append_left _ (List.perm_cons_erase ht)
  | @overflowed s t input reason hc ht hidle hfree =>
      refine (h.ensured s).setSession (state.mem_ensured_self s) ?_
      rw [ensured_activeIds]
      have ha : ¬ state.Active s t := by simp [Active, hidle]
      refine (h.session_tidy s).add (notMem_occupied.mpr ⟨hc, ht, ha⟩) hfree ?_
      simp only [SessionState.occupied, SessionState.record, List.map_append, List.map_cons,
        List.map_nil, List.append_assoc]
      exact List.perm_middle.symm
  | @admitted s t hc ht hidle hfree =>
      refine (h.ensured s).activate (by simpa using hidle) (state.lookup_ensured_self s) ?_ false
      have ha : ¬ state.Active s t := by simp [Active, hidle]
      have hids := activeIds_of_none hidle s
      refine (h.session_tidy s).add (notMem_occupied.mpr ⟨hc, ht, ha⟩) hfree ?_
      simp only [SessionState.occupied, hids, List.append_nil]
      exact (List.perm_append_singleton t _).symm
  | @settled s t flag input terminal ha hterm =>
      refine h.clearActive.setSession (h.activeOwned _ ha) ((h.session_tidy s).perm ?_)
      have hids : state.activeIds s = [t] := by simp [activeIds, ha]
      have hnone : (state.setActive none).activeIds s = [] := rfl
      rw [hids, hnone]
      simp only [SessionState.occupied, SessionState.record, List.map_append, List.map_cons,
        List.map_nil, List.append_nil, List.append_assoc]
      exact List.Perm.append_left _ List.perm_append_comm

/-! ## Settlement -/

/-- The Turn ended `Cancelled`. -/
def CompletedTurn.IsCancelled (completed : CompletedTurn) : Prop := completed.terminal = .cancelled

/-- What the state knows of the outcome of a Turn. -/
def AgentState.phase (state : AgentState) (s : SessionId) (t : TurnId) :
    Settlement CompletedTurn.IsCancelled :=
  match state.completed? s t with
  | some completed => .settled completed
  | none =>
      if state.Tombstoned s t ∨ state.activeTurn = some ⟨s, t, true⟩ then .doomed
      else if state.activeTurn = some ⟨s, t, false⟩ then .running
      else .fresh

theorem AgentState.phase_settled {state : AgentState} {s : SessionId} {t : TurnId}
    {completed : CompletedTurn} :
    state.phase s t = .settled completed ↔ state.completed? s t = some completed := by
  rw [phase]
  cases state.completed? s t with
  | none => split_ifs <;> simp
  | some c => simp

theorem AgentState.phase_fresh {state : AgentState} {s : SessionId} {t : TurnId}
    (hc : state.completed? s t = none) (ht : ¬ state.Tombstoned s t) (ha : ¬ state.Active s t) :
    state.phase s t = .fresh := by
  have h₁ : state.activeTurn ≠ some ⟨s, t, true⟩ := fun h => ha ⟨true, h⟩
  have h₂ : state.activeTurn ≠ some ⟨s, t, false⟩ := fun h => ha ⟨false, h⟩
  simp [phase, hc, ht, h₁, h₂]

theorem AgentState.phase_doomed {state : AgentState} {s : SessionId} {t : TurnId}
    (hc : state.completed? s t = none)
    (h : state.Tombstoned s t ∨ state.activeTurn = some ⟨s, t, true⟩) :
    state.phase s t = .doomed := by
  simp [phase, hc, h]

theorem AgentState.phase_running {state : AgentState} (h : state.WellFormed) {s : SessionId}
    {t : TurnId} (ha : state.activeTurn = some ⟨s, t, false⟩) : state.phase s t = .running := by
  obtain ⟨hc, ht⟩ := h.active_free ⟨false, ha⟩
  simp [phase, hc, ht, ha]

theorem AgentState.phase_le_doomed {state : AgentState} {s : SessionId} {t : TurnId}
    (hc : state.completed? s t = none) : state.phase s t ≤ .doomed :=
  Settlement.le_doomed fun a ha => by simp [phase_settled.mp ha] at hc

/-- The phase of a Turn reads its session and whether the Turn is active. -/
theorem AgentState.phase_congr {state state' : AgentState} {s : SessionId} {t : TurnId}
    (hc : (state'.session s).completed? t = (state.session s).completed? t)
    (ht : t ∈ (state'.session s).pendingCancellations ↔
      t ∈ (state.session s).pendingCancellations)
    (ha : ∀ flag, state'.activeTurn = some ⟨s, t, flag⟩ ↔ state.activeTurn = some ⟨s, t, flag⟩) :
    state'.phase s t = state.phase s t := by
  simp only [phase]
  rw [completed?_eq, completed?_eq, hc]
  cases (state.session s).completed? t with
  | some completed => rfl
  | none => exact if_congr (or_congr ht (ha true)) rfl (if_congr (ha false) rfl rfl)

/-! ### The Turn a step is about, and all the others -/

/-- Two sessions agree on every Turn but one. -/
def SessionState.AgreeOff (t₀ : TurnId) (x y : SessionState) : Prop :=
  ∀ t, t ≠ t₀ → x.completed? t = y.completed? t ∧
    (t ∈ x.pendingCancellations ↔ t ∈ y.pendingCancellations)

theorem SessionState.record_agreeOff (x : SessionState) (t₀ : TurnId) (input : String)
    (terminal : TurnTerminal) : AgreeOff t₀ (x.record t₀ input terminal) x := by
  intro t hne
  exact ⟨by simp [hne.symm], Iff.rfl⟩

theorem SessionState.consume_agreeOff (x : SessionState) (t₀ : TurnId) (input : String) :
    AgreeOff t₀ (x.consume t₀ input) x := by
  intro t hne
  exact ⟨by simp [hne.symm], by simp [consume, List.mem_erase_of_ne hne]⟩

theorem SessionState.bury_agreeOff (x : SessionState) (t₀ : TurnId) :
    AgreeOff t₀ (x.bury t₀) x := by
  intro t hne
  exact ⟨rfl, by simp [bury, hne]⟩

theorem AgentState.session_setSession (state : AgentState) (s s' : SessionId) (x : SessionState) :
    (state.setSession s x).session s' = if s' = s then x else state.session s' := by
  simp only [session, setSession_sessions, lookup_insert_eq]
  split_ifs <;> rfl

@[simp] theorem AgentState.completed?_setSession_self (state : AgentState) (s : SessionId)
    (x : SessionState) (t : TurnId) : (state.setSession s x).completed? s t = x.completed? t := by
  rw [completed?_eq, session_setSession, if_pos rfl]

/-- A Turn that was not recorded is recorded by its record. -/
theorem AgentState.completed?_recorded {state : AgentState} {s : SessionId} {t : TurnId}
    (hc : state.completed? s t = none) (base : AgentState) (input : String)
    (terminal : TurnTerminal) :
    (base.setSession s ((state.session s).record t input terminal)).completed? s t =
      some ⟨t, input, terminal⟩ := by
  rw [completed?_eq] at hc
  simp [hc]

theorem AgentState.completed?_consumed {state : AgentState} {s : SessionId} {t : TurnId}
    (hc : state.completed? s t = none) (input : String) :
    (state.setSession s ((state.session s).consume t input)).completed? s t =
      some ⟨t, input, .cancelled⟩ := by
  rw [completed?_eq] at hc
  simp [hc]

/-- A session still in the map after `ensure_session` is as it was. -/
theorem AgentState.session_ensured {state : AgentState} {s s' : SessionId}
    (h : s' ∈ (state.ensured s).sessions) : (state.ensured s).session s' = state.session s' := by
  by_cases heq : s' = s
  · subst heq
    exact session_of_lookup (state.lookup_ensured_self s')
  · rcases state.lookup_ensured_ne heq with hl | hl
    · simp [session, hl]
    · exact absurd (AList.lookup_isSome.mpr h) (by simp [hl])

/-- The sessions after one of them was ensured and written. -/
theorem AgentState.session_ensured_setSession {state : AgentState} {s₀ s : SessionId}
    {x : SessionState} (h : s ∈ ((state.ensured s₀).setSession s₀ x).sessions) :
    ((state.ensured s₀).setSession s₀ x).session s = if s = s₀ then x else state.session s := by
  rw [session_setSession]
  split_ifs with heq
  · rfl
  · refine session_ensured ?_
    rw [setSession_sessions, AList.mem_insert] at h
    exact h.resolve_left heq

/-- A step about one Turn leaves the phase of the others. -/
theorem AgentState.phase_off {state state' : AgentState} {s₀ : SessionId} {t₀ : TurnId}
    {x : SessionState} (hx : x.AgreeOff t₀ (state.session s₀)) {s : SessionId} {t : TurnId}
    (hsession : state'.session s = if s = s₀ then x else state.session s)
    (hne : ¬ (s = s₀ ∧ t = t₀))
    (ha : ∀ flag, state'.activeTurn = some ⟨s, t, flag⟩ ↔ state.activeTurn = some ⟨s, t, flag⟩) :
    state'.phase s t = state.phase s t := by
  by_cases hs : s = s₀
  · subst hs
    rw [if_pos rfl] at hsession
    obtain ⟨hc, ht⟩ := hx t fun ht => hne ⟨rfl, ht⟩
    exact phase_congr (by rw [hsession, hc]) (by rw [hsession, ht]) ha
  · rw [if_neg hs] at hsession
    exact phase_congr (by rw [hsession]) (by rw [hsession]) ha

/-- Raising the flag of the active Turn lowers no settlement. -/
theorem AgentState.phase_le_flagged {state state' : AgentState} {s : SessionId}
    (hsession : state'.session s = state.session s)
    (ha : state'.activeTurn = state.cancelActiveTurn.activeTurn) (t : TurnId) :
    state.phase s t ≤ state'.phase s t := by
  by_cases hact : state.Active s t
  · -- the flag is raised on this very Turn
    obtain ⟨flag, hact⟩ := hact
    have hact' : state'.activeTurn = some ⟨s, t, true⟩ := by
      rw [ha]
      simp [cancelActiveTurn, hact]
    have hcompleted : state'.completed? s t = state.completed? s t := by
      rw [completed?_eq, hsession, ← completed?_eq]
    cases hc : state.completed? s t with
    | some completed => rw [phase_settled.mpr hc, phase_settled.mpr (hcompleted.trans hc)]
    | none =>
        rw [phase_doomed (hcompleted.trans hc) (.inr hact')]
        exact phase_le_doomed hc
  · refine (phase_congr (by rw [hsession]) (by rw [hsession]) fun flag => ?_).ge
    rw [ha]
    constructor
    · intro hf
      obtain ⟨active, hf', heq⟩ := Option.map_eq_some_iff.mp hf
      cases heq
      exact absurd ⟨active.cancellation, hf'⟩ hact
    · intro hf
      exact absurd ⟨flag, hf⟩ hact

/-- Settling the active Turn lowers no settlement. -/
theorem AgentState.phase_le_settle {state : AgentState} (h : state.WellFormed) {s₀ : SessionId}
    {t₀ : TurnId} {flag : Bool} (ha : state.activeTurn = some ⟨s₀, t₀, flag⟩) (input : String)
    {terminal : TurnTerminal} (hterm : flag = true → terminal = .cancelled) (s : SessionId)
    (t : TurnId) : state.phase s t ≤ (state.settle s₀ t₀ input terminal).phase s t := by
  have hsession := (state.setActive none).session_setSession s₀ s
    ((state.session s₀).record t₀ input terminal)
  by_cases heq : s = s₀ ∧ t = t₀
  · obtain ⟨rfl, rfl⟩ := heq
    obtain ⟨hc, -⟩ := h.active_free ⟨flag, ha⟩
    rw [settle, phase_settled.mpr (completed?_recorded hc (state.setActive none) input terminal)]
    cases flag with
    | true =>
        rw [phase_doomed hc (.inr ha), Settlement.doomed_le_settled]
        exact hterm rfl
    | false =>
        rw [phase_running h ha]
        refine Settlement.running_le.mpr ?_
        intro hfresh
        cases hfresh
  · refine (phase_off (SessionState.record_agreeOff _ t₀ input terminal) hsession heq
      fun flag' => ?_).ge
    simp only [setSession_activeTurn, setActive_activeTurn, ha, reduceCtorEq,
      Option.some.injEq, ActiveTurn.mk.injEq, false_iff]
    rintro ⟨rfl, rfl, -⟩
    exact heq ⟨rfl, rfl⟩

/-- A step never lowers the settlement of a Turn whose session stays in the map. -/
theorem AgentState.Step.phase_le {state state' : AgentState} (h : state.WellFormed)
    (hstep : state.Step state') {s : SessionId} (hs : s ∈ state'.sessions) (t : TurnId) :
    state.phase s t ≤ state'.phase s t := by
  cases hstep with
  | governed hsess ho ha =>
      have hsession : state'.session s = state.session s := by simp [session, hsess]
      rcases ha with ha | ha
      · exact (phase_congr (by rw [hsession]) (by rw [hsession]) (by simp [ha])).ge
      · exact phase_le_flagged hsession ha t
  | @tombstoned s₀ t₀ hc ha ht hfree =>
      by_cases heq : s = s₀ ∧ t = t₀
      · obtain ⟨rfl, rfl⟩ := heq
        rw [phase_fresh hc ht ha]
        exact Settlement.fresh_le _
      · exact (phase_off (SessionState.bury_agreeOff _ t₀) (session_ensured_setSession hs) heq
          (by simp)).ge
  | @consumed s₀ t₀ input hc ht =>
      have hsession := state.session_setSession s₀ s ((state.session s₀).consume t₀ input)
      by_cases heq : s = s₀ ∧ t = t₀
      · obtain ⟨rfl, rfl⟩ := heq
        rw [phase_doomed hc (.inl ht), phase_settled.mpr (completed?_consumed hc input),
          Settlement.doomed_le_settled]
        rfl
      · exact (phase_off (SessionState.consume_agreeOff _ t₀ input) hsession heq (by simp)).ge
  | @overflowed s₀ t₀ input reason hc ht hidle hfree =>
      by_cases heq : s = s₀ ∧ t = t₀
      · obtain ⟨rfl, rfl⟩ := heq
        rw [phase_fresh hc ht (by simp [Active, hidle])]
        exact Settlement.fresh_le _
      · exact (phase_off (SessionState.record_agreeOff _ t₀ input (.failed reason))
          (session_ensured_setSession hs) heq (by simp)).ge
  | @admitted s₀ t₀ hc ht hidle hfree =>
      by_cases heq : s = s₀ ∧ t = t₀
      · obtain ⟨rfl, rfl⟩ := heq
        rw [phase_fresh hc ht (by simp [Active, hidle])]
        exact Settlement.fresh_le _
      · have hsession : ((state.ensured s₀).setActive (some ⟨s₀, t₀, false⟩)).session s =
            state.session s := session_ensured hs
        refine (phase_congr (by rw [hsession]) (by rw [hsession]) fun flag => ?_).ge
        simp only [setActive_activeTurn, hidle, Option.some.injEq, ActiveTurn.mk.injEq,
          reduceCtorEq, iff_false]
        rintro ⟨rfl, rfl, -⟩
        exact heq ⟨rfl, rfl⟩
  | @settled s₀ t₀ flag input terminal ha hterm => exact phase_le_settle h ha input hterm s t

end Paraegox.Agent
