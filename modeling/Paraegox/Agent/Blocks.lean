import Paraegox.Agent.StateMetatheory

/-!
# Closed forms of the locked blocks

On a well-formed state a block never panics, and what it returns and writes is a
case distinction on the state.  `AgentState.ensured` is the state after
`ensure_session`: the session is in the map, and at most one other session, one
that does not own the active Turn, has left it.
-/

namespace Paraegox.Agent

/-! ## Insertion and eviction -/

/-- The session does not own the active Turn. -/
def AgentState.evictable (state : AgentState) (candidate : SessionId) : Bool :=
  some candidate ≠ state.activeTurn.map ActiveTurn.sessionId

/-- The first evictable session in insertion order is removed. -/
def AgentState.evicted (state : AgentState) : AgentState :=
  match state.sessionOrder.find? state.evictable with
  | none => state
  | some expired =>
      { state with
        sessionOrder := state.sessionOrder.erase expired
        sessions := state.sessions.erase expired }

/-- An empty session is inserted last. -/
def AgentState.inserted (state : AgentState) (s : SessionId) : AgentState :=
  { state with
    sessions := state.sessions.insert s {}
    sessionOrder := state.sessionOrder ++ [s] }

/-- The state after `ensure_session`. -/
def AgentState.ensured (state : AgentState) (s : SessionId) : AgentState :=
  if s ∈ state.sessions then state
  else if state.sessions.keys.length = MAX_SESSIONS then state.evicted.inserted s
  else state.inserted s

theorem eraseIdx_findIdx? {α : Type} [DecidableEq α] {l : List α} {p : α → Bool} {i : Nat}
    {a : α} (hi : l.findIdx? p = some i) (ha : l.find? p = some a) : l.eraseIdx i = l.erase a := by
  have h : l.eraseP p = l.eraseIdx i := by rw [List.eraseP_eq_eraseIdx, hi]
  rw [← h]
  clear h hi
  induction l with
  | nil => rfl
  | cons b l ih =>
      by_cases hb : p b
      · rw [List.find?_cons_of_pos hb] at ha
        cases ha
        simp [hb]
      · rw [List.find?_cons_of_neg hb] at ha
        have hne : a ≠ b := by
          rintro rfl
          exact hb (List.find?_some ha)
        rw [List.eraseP_cons_of_neg hb, List.erase_cons_tail (by simpa using hne.symm), ih ha]

theorem AgentState.WellFormed.length_order {state : AgentState} (h : state.WellFormed) :
    state.sessionOrder.length = state.sessions.keys.length := by
  have hperm : state.sessionOrder.Perm state.sessions.keys :=
    (List.perm_ext_iff_of_nodup h.orderNodup state.sessions.keys_nodup).mpr fun s => by
      rw [h.orderKeys, AList.mem_keys]
  exact hperm.length_eq

/-- A full map always holds a session that may be evicted. -/
theorem AgentState.WellFormed.exists_evictable {state : AgentState} (h : state.WellFormed)
    (hfull : state.sessions.keys.length = MAX_SESSIONS) :
    ∃ expired, state.sessionOrder.find? state.evictable = some expired := by
  cases hf : state.sessionOrder.find? state.evictable with
  | some expired => exact ⟨expired, rfl⟩
  | none =>
      have hall := List.find?_eq_none.mp hf
      have hlen : state.sessionOrder.length = 64 := h.length_order.trans hfull
      match horder : state.sessionOrder, hlen with
      | s₁ :: s₂ :: rest, _ =>
          rw [horder] at hall
          have h₁ := hall s₁ List.mem_cons_self
          have h₂ := hall s₂ (List.mem_cons_of_mem _ List.mem_cons_self)
          simp only [evictable, ne_eq, decide_not, Bool.not_eq_eq_eq_not, Bool.not_true,
            decide_eq_false_iff_not, not_not] at h₁ h₂
          have heq : s₁ = s₂ := Option.some.inj (h₁.trans h₂.symm)
          have hnd := h.orderNodup
          rw [horder, heq] at hnd
          exact absurd List.mem_cons_self (List.nodup_cons.mp hnd).1

theorem evictSession_run {state : AgentState} (h : state.WellFormed)
    (hfull : state.sessions.keys.length = MAX_SESSIONS) :
    EStateM.run evictSession state = .ok () state.evicted := by
  obtain ⟨expired, hf⟩ := h.exists_evictable hfull
  obtain ⟨position, hi, hp⟩ : ∃ i, state.sessionOrder.findIdx? state.evictable = some i ∧
      state.sessionOrder[i]? = some expired := by
    rw [List.find?_eq_bind_findIdx?_getElem?] at hf
    exact Option.bind_eq_some_iff.mp hf
  have hi' : state.sessionOrder.findIdx? (fun candidate =>
      some candidate ≠ state.activeTurn.map ActiveTurn.sessionId) = some position := hi
  simp only [evictSession, EStateM.run_bind, EStateM.run_get, hi', hp, Exec.run_expect_some,
    EStateM.run_set, AgentState.evicted, hf, eraseIdx_findIdx? hi hf]

theorem ensureSession_run {state : AgentState} (h : state.WellFormed) (s : SessionId) :
    EStateM.run (ensureSession s) state = .ok () (state.ensured s) := by
  simp only [ensureSession, AgentState.ensured]
  simp only [EStateM.run_bind, EStateM.run_get]
  by_cases hs : s ∈ state.sessions
  · simp [hs]
  · by_cases hfull : state.sessions.keys.length = MAX_SESSIONS
    · simp only [hs, hfull, ↓reduceIte, EStateM.run_bind, evictSession_run h hfull]
      rfl
    · simp only [hs, hfull, ↓reduceIte]
      rfl

/-! ### What `ensured` keeps -/

section

variable (state : AgentState) (s : SessionId)

@[simp] theorem AgentState.evicted_lifecycle : state.evicted.lifecycle = state.lifecycle := by
  rw [evicted]
  split <;> rfl
@[simp] theorem AgentState.evicted_activeProfile :
    state.evicted.activeProfile = state.activeProfile := by
  rw [evicted]
  split <;> rfl
@[simp] theorem AgentState.evicted_activeTurn : state.evicted.activeTurn = state.activeTurn := by
  rw [evicted]
  split <;> rfl
@[simp] theorem AgentState.ensured_lifecycle : (state.ensured s).lifecycle = state.lifecycle := by
  simp only [ensured, inserted]
  split_ifs <;> simp
@[simp] theorem AgentState.ensured_activeProfile :
    (state.ensured s).activeProfile = state.activeProfile := by
  simp only [ensured, inserted]
  split_ifs <;> simp
@[simp] theorem AgentState.ensured_activeTurn :
    (state.ensured s).activeTurn = state.activeTurn := by
  simp only [ensured, inserted]
  split_ifs <;> simp
@[simp] theorem AgentState.ensured_activeIds (s' : SessionId) :
    (state.ensured s).activeIds s' = state.activeIds s' := by
  simp [activeIds]

end

theorem AgentState.ensured_of_mem {state : AgentState} {s : SessionId} (h : s ∈ state.sessions) :
    state.ensured s = state := if_pos h

/-- A session as an operation on it finds it: the empty one where there is none. -/
def AgentState.session (state : AgentState) (s : SessionId) : SessionState :=
  (state.sessions.lookup s).getD {}

theorem AgentState.session_of_lookup {state : AgentState} {s : SessionId} {x : SessionState}
    (h : state.sessions.lookup s = some x) : state.session s = x := by
  simp [session, h]

theorem AgentState.session_of_notMem {state : AgentState} {s : SessionId}
    (h : s ∉ state.sessions) : state.session s = {} := by
  simp [session, AList.lookup_eq_none.mpr h]

theorem AgentState.lookup_of_mem {state : AgentState} {s : SessionId} (h : s ∈ state.sessions) :
    state.sessions.lookup s = some (state.session s) := by
  obtain ⟨x, hx⟩ := Option.isSome_iff_exists.mp (AList.lookup_isSome.mpr h)
  rw [session_of_lookup hx, hx]

@[simp] theorem AgentState.lookup_ensured_self (state : AgentState) (s : SessionId) :
    (state.ensured s).sessions.lookup s = some (state.session s) := by
  simp only [ensured, inserted]
  by_cases hs : s ∈ state.sessions
  · simp [hs, lookup_of_mem hs]
  · split_ifs <;> simp [session_of_notMem hs]

@[simp] theorem AgentState.mem_ensured_self (state : AgentState) (s : SessionId) :
    s ∈ (state.ensured s).sessions :=
  WellFormed.mem_of_lookup (lookup_ensured_self state s)

theorem AgentState.lookup_evicted (state : AgentState) (s : SessionId) :
    state.evicted.sessions.lookup s = state.sessions.lookup s ∨
      state.evicted.sessions.lookup s = none := by
  rw [evicted]
  split
  · exact .inl rfl
  · next expired _ =>
      by_cases h : s = expired
      · subst h
        exact .inr (AList.lookup_erase _ _)
      · exact .inl (AList.lookup_erase_ne h)

/-- A session other than the one ensured is as it was, or it was evicted. -/
theorem AgentState.lookup_ensured_ne (state : AgentState) {s s' : SessionId} (h : s' ≠ s) :
    (state.ensured s).sessions.lookup s' = state.sessions.lookup s' ∨
      (state.ensured s).sessions.lookup s' = none := by
  simp only [ensured, inserted]
  split_ifs
  · exact .inl rfl
  · simp only [lookup_insert_eq, h, ↓reduceIte]
    exact state.lookup_evicted s'
  · simp [h]

theorem AgentState.WellFormed.evicted {state : AgentState} (h : state.WellFormed) :
    state.evicted.WellFormed := by
  rw [AgentState.evicted]
  split
  · exact h
  · next expired hf =>
      have hmem : expired ∈ state.sessionOrder := List.mem_of_find?_eq_some hf
      refine ⟨h.orderNodup.erase _, fun s => ?_, ?_, fun active ha => ?_, fun s x hl => ?_⟩
      · rw [h.orderNodup.mem_erase_iff, AList.mem_erase, h.orderKeys]
      · rw [AList.keys_erase]
        exact List.length_erase_le.trans h.bounded
      · -- the owner of the active Turn is not evictable
        rw [AList.mem_erase]
        refine ⟨?_, h.activeOwned active ha⟩
        rintro rfl
        have hev := List.find?_some hf
        have ha' : state.activeTurn = some active := ha
        simp [evictable, ha'] at hev
      · have hl' : (state.sessions.erase expired).lookup s = some x := hl
        by_cases heq : s = expired
        · subst heq
          rw [AList.lookup_erase] at hl'
          cases hl'
        · rw [AList.lookup_erase_ne heq] at hl'
          exact h.tidy s x hl'

theorem AgentState.WellFormed.inserted {state : AgentState} (h : state.WellFormed) {s : SessionId}
    (hs : s ∉ state.sessions) (hfree : state.sessions.keys.length < MAX_SESSIONS) :
    (state.inserted s).WellFormed where
  orderNodup := by
    have : s ∉ state.sessionOrder := fun hm => hs ((h.orderKeys s).mp hm)
    simpa [AgentState.inserted, List.nodup_append, h.orderNodup] using fun a ha (he : a = s) =>
      this (he ▸ ha)
  orderKeys s' := by
    simp only [AgentState.inserted, List.mem_append, List.mem_singleton, AList.mem_insert,
      h.orderKeys]
    exact or_comm
  bounded := by
    have hs' : s ∉ state.sessions.keys := fun hm => hs (AList.mem_keys.mpr hm)
    simp only [AgentState.inserted, AList.keys_insert, List.length_cons,
      List.erase_of_not_mem hs']
    exact hfree
  activeOwned active ha := (AList.mem_insert _).mpr (.inr (h.activeOwned active ha))
  tidy s' x hl := by
    have hids : (state.inserted s).activeIds s' = state.activeIds s' := rfl
    simp only [AgentState.inserted, lookup_insert_eq] at hl
    split at hl
    · next heq =>
        cases hl
        subst heq
        have hnone : state.activeIds s' = [] := by
          rw [activeIds]
          split
          · next active ha =>
              exact if_neg fun heq : active.sessionId = s' => hs (heq ▸ h.activeOwned active ha)
          · rfl
        rw [hids, hnone]
        exact SessionState.empty_tidy
    · exact h.tidy s' x hl

theorem AgentState.WellFormed.ensured {state : AgentState} (h : state.WellFormed)
    (s : SessionId) : (state.ensured s).WellFormed := by
  rw [AgentState.ensured]
  split_ifs with hs hfull
  · exact h
  · -- the eviction leaves a free place
    obtain ⟨expired, hf⟩ := h.exists_evictable hfull
    have hmem : expired ∈ state.sessions :=
      (h.orderKeys expired).mp (List.mem_of_find?_eq_some hf)
    refine h.evicted.inserted (fun hm => hs ?_) ?_
    · simp only [AgentState.evicted, hf, AList.mem_erase] at hm
      exact hm.2
    · simp only [AgentState.evicted, hf, AList.keys_erase,
        List.length_erase_of_mem (AList.mem_keys.mp hmem), hfull]
      decide
  · exact h.inserted hs (lt_of_le_of_ne h.bounded hfull)

/-- The slots of a session an operation finds are tidy. -/
theorem AgentState.WellFormed.session_tidy {state : AgentState} (h : state.WellFormed)
    (s : SessionId) : (state.session s).Tidy (state.activeIds s) := by
  have := (h.ensured s).tidy s _ (state.lookup_ensured_self s)
  rwa [ensured_activeIds] at this

/-! ## Slots and records -/

/-- The identifiers that occupy the slots of a session. -/
def AgentState.occupied (state : AgentState) (s : SessionId) : List TurnId :=
  (state.session s).occupied (state.activeIds s)

theorem ensureTurnSlot_run {state : AgentState} {s : SessionId} {x : SessionState}
    (h : state.sessions.lookup s = some x) :
    EStateM.run (ensureTurnSlot s) state =
      if MAX_RETAINED_TURNS_PER_SESSION ≤ (x.occupied (state.activeIds s)).length then
        .error (.error ⟨"Agent session terminal capacity is full; create a new Session"⟩) state
      else .ok () state := by
  have hlen : (x.occupied (state.activeIds s)).length =
      x.turns.length + x.pendingCancellations.length + state.activeReservation s := by
    simp [SessionState.occupied]
    omega
  simp only [ensureTurnSlot, EStateM.run_bind, EStateM.run_get, h, Exec.run_expect_some, hlen]
  split_ifs <;> rfl

/-- A session with one more entry in its ledger. -/
def SessionState.record (session : SessionState) (t : TurnId) (input : String)
    (terminal : TurnTerminal) : SessionState :=
  { session with turns := session.turns ++ [⟨t, input, terminal⟩] }

theorem recordCompletedTurn_run {session : SessionState}
    (h : session.turns.length < MAX_RETAINED_TURNS_PER_SESSION) (state : AgentState)
    (s : SessionId) (t : TurnId) (input : String) (terminal : TurnTerminal) :
    EStateM.run (recordCompletedTurn s session t input terminal) state =
      .ok () (state.setSession s (session.record t input terminal)) := by
  simp only [recordCompletedTurn, EStateM.run_bind, Exec.run_assert_of h]
  rfl

end Paraegox.Agent
