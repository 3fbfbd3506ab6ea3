import Paraegox.Agent.State

/-!
# The invariant of `AgentState` and what its blocks do

`AgentState.WellFormed` is the representation invariant.  It speaks of a session
through the identifiers that occupy its slots: the recorded Turns, then the
tombstones, then the active Turn when the session owns it.  They are pairwise
distinct and fit the ledger.

On a well-formed state every block of `State.lean` has a closed form, which is
its specification here.  No later module unfolds a block.
-/

namespace Paraegox.Agent

/-! ## Occupied slots -/

/-- The active Turn's identifier, in the session that owns it. -/
def AgentState.activeIds (state : AgentState) (s : SessionId) : List TurnId :=
  match state.activeTurn with
  | some active => if active.sessionId = s then [active.turnId] else []
  | none => []

/-- The identifiers that occupy the slots of a session. -/
def SessionState.occupied (session : SessionState) (activeIds : List TurnId) : List TurnId :=
  session.turns.map CompletedTurn.turnId ++ session.pendingCancellations ++ activeIds

/-- The slots hold distinct Turns and are not too many. -/
structure SessionState.Tidy (session : SessionState) (activeIds : List TurnId) : Prop where
  distinct : (session.occupied activeIds).Nodup
  bounded : (session.occupied activeIds).length ≤ MAX_RETAINED_TURNS_PER_SESSION

/-- The representation invariant of `AgentState`. -/
structure AgentState.WellFormed (state : AgentState) : Prop where
  orderNodup : state.sessionOrder.Nodup
  orderKeys : ∀ s, s ∈ state.sessionOrder ↔ s ∈ state.sessions
  bounded : state.sessions.keys.length ≤ MAX_SESSIONS
  activeOwned : ∀ active, state.activeTurn = some active → active.sessionId ∈ state.sessions
  tidy : ∀ s session, state.sessions.lookup s = some session → session.Tidy (state.activeIds s)

theorem AgentState.created_wellFormed : AgentState.created.WellFormed where
  orderNodup := List.nodup_nil
  orderKeys := by simp [AgentState.created]
  bounded := by simp [AgentState.created]
  activeOwned := by simp [AgentState.created]
  tidy := by simp [AgentState.created]

@[simp] theorem AgentState.length_activeIds (state : AgentState) (s : SessionId) :
    (state.activeIds s).length = state.activeReservation s := by
  simp only [AgentState.activeIds, AgentState.activeReservation]
  cases state.activeTurn with
  | none => rfl
  | some active => by_cases h : active.sessionId = s <;> simp [h]

theorem AgentState.activeIds_of_none {state : AgentState} (h : state.activeTurn = none)
    (s : SessionId) : state.activeIds s = [] := by
  simp [AgentState.activeIds, h]

theorem SessionState.Tidy.turns_lt {session : SessionState} {ids : List TurnId} (t : TurnId)
    (h : session.Tidy (t :: ids)) : session.turns.length < MAX_RETAINED_TURNS_PER_SESSION := by
  have := h.bounded
  simp only [SessionState.occupied, List.length_append, List.length_map, List.length_cons] at this
  omega

/-- The empty session is tidy when it does not own the active Turn. -/
theorem SessionState.empty_tidy : SessionState.Tidy {} [] where
  distinct := List.nodup_nil
  bounded := Nat.zero_le _

/-- Slots that only change places stay tidy. -/
theorem SessionState.Tidy.perm {session session' : SessionState} {ids ids' : List TurnId}
    (h : session.Tidy ids) (hp : (session.occupied ids).Perm (session'.occupied ids')) :
    session'.Tidy ids' where
  distinct := hp.nodup_iff.mp h.distinct
  bounded := hp.length_eq ▸ h.bounded

/-- A new identifier takes a free slot. -/
theorem SessionState.Tidy.add {session session' : SessionState} {ids ids' : List TurnId}
    {t : TurnId} (h : session.Tidy ids) (hnew : t ∉ session.occupied ids)
    (hfree : (session.occupied ids).length < MAX_RETAINED_TURNS_PER_SESSION)
    (hp : (t :: session.occupied ids).Perm (session'.occupied ids')) : session'.Tidy ids' where
  distinct := hp.nodup_iff.mp (List.nodup_cons.mpr ⟨hnew, h.distinct⟩)
  bounded := by rw [← hp.length_eq]; exact hfree

/-! ## Writing one session -/

/-- Replace a session of the map. -/
def AgentState.setSession (state : AgentState) (s : SessionId) (session : SessionState) :
    AgentState :=
  { state with sessions := state.sessions.insert s session }

/-- Replace the active Turn. -/
def AgentState.setActive (state : AgentState) (active : Option ActiveTurn) : AgentState :=
  { state with activeTurn := active }

section

variable (state : AgentState) (s : SessionId) (session : SessionState) (active : Option ActiveTurn)

@[simp] theorem AgentState.setSession_lifecycle :
    (state.setSession s session).lifecycle = state.lifecycle := rfl
@[simp] theorem AgentState.setSession_activeProfile :
    (state.setSession s session).activeProfile = state.activeProfile := rfl
@[simp] theorem AgentState.setSession_activeTurn :
    (state.setSession s session).activeTurn = state.activeTurn := rfl
@[simp] theorem AgentState.setSession_sessionOrder :
    (state.setSession s session).sessionOrder = state.sessionOrder := rfl
@[simp] theorem AgentState.setSession_sessions :
    (state.setSession s session).sessions = state.sessions.insert s session := rfl
@[simp] theorem AgentState.setSession_activeIds (s' : SessionId) :
    (state.setSession s session).activeIds s' = state.activeIds s' := rfl
@[simp] theorem AgentState.setActive_lifecycle :
    (state.setActive active).lifecycle = state.lifecycle := rfl
@[simp] theorem AgentState.setActive_activeProfile :
    (state.setActive active).activeProfile = state.activeProfile := rfl
@[simp] theorem AgentState.setActive_activeTurn :
    (state.setActive active).activeTurn = active := rfl
@[simp] theorem AgentState.setActive_sessionOrder :
    (state.setActive active).sessionOrder = state.sessionOrder := rfl
@[simp] theorem AgentState.setActive_sessions :
    (state.setActive active).sessions = state.sessions := rfl

end

/-- A lookup after an insertion. -/
theorem lookup_insert_eq (sessions : Sessions) (s s' : SessionId) (session : SessionState) :
    (sessions.insert s session).lookup s' =
      if s' = s then some session else sessions.lookup s' := by
  by_cases h : s' = s
  · subst h
    simp
  · simp [h, AList.lookup_insert_ne h]

/-- Inserting at a present key keeps the number of keys. -/
theorem length_keys_insert_of_mem {sessions : Sessions} {s : SessionId} {session : SessionState}
    (h : s ∈ sessions) : (sessions.insert s session).keys.length = sessions.keys.length := by
  have hmem : s ∈ sessions.keys := AList.mem_keys.mp h
  have hpos := List.length_pos_of_mem hmem
  rw [AList.keys_insert, List.length_cons, List.length_erase_of_mem hmem]
  omega

theorem AgentState.WellFormed.mem_of_lookup {state : AgentState} {s : SessionId}
    {session : SessionState} (h : state.sessions.lookup s = some session) : s ∈ state.sessions :=
  AList.lookup_isSome.mp (by rw [h]; rfl)

/-- A tidy session takes the place of another one. -/
theorem AgentState.WellFormed.setSession {state : AgentState} (h : state.WellFormed)
    {s : SessionId} {session : SessionState} (hs : s ∈ state.sessions)
    (ht : session.Tidy (state.activeIds s)) : (state.setSession s session).WellFormed where
  orderNodup := h.orderNodup
  orderKeys s' := by
    rw [setSession_sessionOrder, setSession_sessions, AList.mem_insert, h.orderKeys]
    constructor
    · exact Or.inr
    · rintro (rfl | hs')
      · exact hs
      · exact hs'
  bounded := by
    rw [setSession_sessions, length_keys_insert_of_mem hs]
    exact h.bounded
  activeOwned active ha := by
    rw [setSession_sessions, AList.mem_insert]
    exact Or.inr (h.activeOwned active ha)
  tidy s' session' hl := by
    rw [setSession_sessions, lookup_insert_eq] at hl
    split at hl
    · next heq =>
        cases hl
        subst heq
        exact ht
    · exact h.tidy s' session' hl

/-- The active Turn is released. -/
theorem AgentState.WellFormed.clearActive {state : AgentState} (h : state.WellFormed) :
    (state.setActive none).WellFormed where
  orderNodup := h.orderNodup
  orderKeys := h.orderKeys
  bounded := h.bounded
  activeOwned _ ha := by cases ha
  tidy s session hl := by
    have ht := h.tidy s session hl
    have hsub : (session.occupied []).Sublist (session.occupied (state.activeIds s)) :=
      (List.Sublist.refl _).append (List.nil_sublist _)
    exact ⟨ht.distinct.sublist hsub, hsub.length_le.trans ht.bounded⟩

/-- A Turn becomes active in a session that has a slot for it. -/
theorem AgentState.WellFormed.activate {state : AgentState} (h : state.WellFormed)
    (hidle : state.activeTurn = none) {s : SessionId} {t : TurnId} {session : SessionState}
    (hl : state.sessions.lookup s = some session) (ht : session.Tidy [t]) (flag : Bool) :
    (state.setActive (some ⟨s, t, flag⟩)).WellFormed where
  orderNodup := h.orderNodup
  orderKeys := h.orderKeys
  bounded := h.bounded
  activeOwned _ ha := by
    cases ha
    exact mem_of_lookup hl
  tidy s' session' hl' := by
    by_cases heq : s = s'
    · subst heq
      rw [setActive_sessions, hl] at hl'
      cases hl'
      simpa [AgentState.activeIds] using ht
    · have := h.tidy s' session' hl'
      rw [activeIds_of_none hidle] at this
      simpa [AgentState.activeIds, heq] using this

/-- The invariant reads the session map, the queue and the identity of the active Turn. -/
theorem AgentState.WellFormed.congr {state state' : AgentState} (h : state.WellFormed)
    (hs : state'.sessions = state.sessions) (ho : state'.sessionOrder = state.sessionOrder)
    (ha : state'.activeTurn.map (fun a => (a.sessionId, a.turnId)) =
      state.activeTurn.map fun a => (a.sessionId, a.turnId)) : state'.WellFormed := by
  have hids : ∀ s, state'.activeIds s = state.activeIds s := by
    intro s
    simp only [AgentState.activeIds]
    cases h₁ : state.activeTurn <;> cases h₂ : state'.activeTurn <;> simp_all
  refine ⟨ho ▸ h.orderNodup, fun s => ?_, hs ▸ h.bounded, fun active hact => ?_, fun s x hl => ?_⟩
  · rw [ho, hs]
    exact h.orderKeys s
  · rw [hs]
    rw [hact, Option.map_some] at ha
    obtain ⟨active', hact', heq⟩ := Option.map_eq_some_iff.mp ha.symm
    have hsess : active'.sessionId = active.sessionId := congrArg Prod.fst heq
    exact hsess ▸ h.activeOwned active' hact'
  · rw [hids]
    exact h.tidy s x (hs ▸ hl)

end Paraegox.Agent
