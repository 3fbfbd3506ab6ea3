import Paraegox.Agent.ServiceMetatheory

/-!
# What holds in every state of the service

The representation invariant of `AgentState` in the source's own terms, and what
it buys: no `expect` and no `debug_assert` of the service fails, and the errors
that would report a broken invariant are never returned.
-/

namespace Paraegox.Agent

/-- The errors that would report a broken invariant. -/
def internalErrors : List AgentError :=
  [⟨"no inactive Agent session can be evicted"⟩,
    ⟨"AgentService lost ownership of the active turn"⟩,
    ⟨"AgentService active turn identity changed unexpectedly"⟩]

/-- The session map, the queue, the ledgers and the armed guard agree. -/
structure World.Represented (w : World) : Prop where
  orderNodup : w.state.sessionOrder.Nodup
  orderKeys : ∀ s, s ∈ w.state.sessionOrder ↔ s ∈ w.state.sessions
  sessionsBounded : w.state.sessions.keys.length ≤ MAX_SESSIONS
  /-- A Turn is active exactly when one armed guard is its guard. -/
  activeGuarded : ∀ s t, w.state.Active s t ↔ ∃! task, Armed w.calls task s t
  /-- All armed guards are one guard. -/
  guardAlone : ∀ task task' s s' t t',
    Armed w.calls task s t → Armed w.calls task' s' t' → task = task'
  activeOwned : ∀ active, w.state.activeTurn = some active → active.sessionId ∈ w.state.sessions
  slotsBounded : ∀ s session, w.state.sessions.lookup s = some session →
    session.turns.length + session.pendingCancellations.length + w.state.activeReservation s ≤
      MAX_RETAINED_TURNS_PER_SESSION
  slotsDistinct : ∀ s session, w.state.sessions.lookup s = some session →
    (session.turns.map CompletedTurn.turnId ++ session.pendingCancellations ++
      w.state.activeIds s).Nodup

theorem World.Inv.represented {w : World} (h : w.Inv) : w.Represented where
  orderNodup := h.wellFormed.orderNodup
  orderKeys := h.wellFormed.orderKeys
  sessionsBounded := h.wellFormed.bounded
  activeGuarded s t := by
    rw [h.slot.armed]
    refine ⟨fun ⟨task, harmed⟩ => ⟨task, harmed, fun task' h' => ?_⟩, fun h => h.exists⟩
    exact h.slot.alone h' harmed
  guardAlone _ _ _ _ _ _ h₁ h₂ := h.slot.alone h₁ h₂
  activeOwned := h.wellFormed.activeOwned
  slotsBounded s session hl := by
    have hb := (h.wellFormed.tidy s session hl).bounded
    simp only [SessionState.occupied, List.length_append, List.length_map,
      AgentState.length_activeIds] at hb
    exact hb
  slotsDistinct s session hl := (h.wellFormed.tidy s session hl).distinct

/-- A step that fails is refused with one of the listed errors. -/
theorem World.Change.fault {w w' : World} {a : Action} {fault : Fault AgentError}
    (h : w.Change a (.failed fault) w') : ∃ e ∈ refusals, fault = .error e ∧ w' = w := by
  cases h with
  | refused he => exact ⟨_, he, rfl, rfl⟩
  | waited _ _ _ hr _ => rcases hr with hr | hr <;> cases hr
  | settled _ _ _ _ hr => rcases hr with ⟨-, hr⟩ | ⟨-, hr, -⟩ <;> cases hr

/-- In every reachable state the representation invariant holds, and no step from
there panics or returns an internal error. -/
theorem World.Reachable.sound {w : World} (h : w.Reachable) :
    w.Represented ∧
      ∀ a r w', w.next a = some (r, w') →
        (∀ message, r ≠ .failed (.panic message)) ∧
          ∀ e ∈ internalErrors, r ≠ .failed (.error e) := by
  refine ⟨h.inv.represented, fun a r w' hn => ⟨?_, ?_⟩⟩
  · rintro message rfl
    obtain ⟨e, -, he, -⟩ := (World.next_change h.inv hn).fault
    cases he
  · rintro e he rfl
    have hdisjoint : ∀ e ∈ internalErrors, e ∉ refusals := by decide
    obtain ⟨e', he', heq, -⟩ := (World.next_change h.inv hn).fault
    cases heq
    exact hdisjoint e he he'

/-- The invariant with a Turn active and a tombstone beside it. -/
theorem World.Reachable.sound_busy :
    ∃ w : World, w.Represented ∧ w.state.activeTurn = some ⟨⟨⟨1⟩⟩, ⟨⟨2⟩⟩, false⟩ ∧
      w.state.Tombstoned ⟨⟨1⟩⟩ ⟨⟨3⟩⟩ := by
  obtain ⟨tr, w, hrun, -, hw⟩ := service.exec_any (World.created .deterministic)
    [.start, .activateProfile ⟨⟨1⟩⟩ ⟨BUILTIN_AGENT_DEFINITION⟩ "prompt",
      .submitTurn 0 ⟨⟨1⟩⟩ ⟨⟨2⟩⟩ "alpha" 1, .cancel ⟨⟨1⟩⟩ ⟨⟨3⟩⟩]
    (fun q => q.2.state.activeTurn = some ⟨⟨⟨1⟩⟩, ⟨⟨2⟩⟩, false⟩ ∧
      q.2.state.Tombstoned ⟨⟨1⟩⟩ ⟨⟨3⟩⟩) (by decide +kernel)
  exact ⟨w, (World.Reachable.sound ⟨_, tr, hrun⟩).1, of_decide_eq_true hw⟩

end Paraegox.Agent
