import Paraegox.Agent.ServiceMetatheory

/-!
# A refused operation leaves nothing behind

`ensure_session` may evict one session and insert another before the last check of an
operation is made.  A session that was just inserted has a free slot, so an operation
that is refused there found its session in the map and `ensure_session` did nothing.
-/

namespace Paraegox.Agent

open Paraegox.Runtime (CardInstanceId)

/-! ## The locked blocks -/

theorem AdmissionCase.error_state {state state' : AgentState} {s : SessionId} {t : TurnId}
    {input : String} {fault : Fault AgentError}
    (h : AdmissionCase state s t input (.error fault state')) : state' = state := by
  cases h <;> rfl

theorem CancelCase.error_state {state state' : AgentState} {s : SessionId} {t : TurnId}
    {fault : Fault AgentError} (h : CancelCase state s t (.error fault state')) :
    state' = state := by
  cases h
  rfl

theorem activateProfile_error {state state' : AgentState} {c : CardInstanceId} {prompt : String}
    {fault : Fault AgentError}
    (h : EStateM.run (activateProfile c prompt) state = .error fault state') : state' = state := by
  rw [activateProfile_run] at h
  split_ifs at h
  · cases h
    rfl
  · cases h
    rfl

theorem deactivateProfile_error {state state' : AgentState} {c : CardInstanceId}
    {fault : Fault AgentError}
    (h : EStateM.run (deactivateProfile c) state = .error fault state') : state' = state := by
  simp only [deactivateProfile, EStateM.run_bind, EStateM.run_get] at h
  split at h
  · split_ifs at h
    · cases h
    · cases h
      rfl
  · cases h

/-! ## The operations -/

/-- An operation fails only where its locked block does. -/
theorem World.locked_failed {w : World} {α : Type} {block : Locked α}
    {k : α → World → Report × World} {fault : Fault AgentError}
    (hk : ∀ a w', (k a w').1 ≠ .failed fault)
    (hblock : ∀ state, EStateM.run block w.state = .error fault state → state = w.state)
    (h : (w.locked block k).1 = .failed fault) : (w.locked block k).2 = w := by
  rw [locked] at h ⊢
  cases hrun : EStateM.run block w.state with
  | ok a state =>
      rw [hrun] at h
      exact absurd h (hk a _)
  | error fault' state =>
      rw [hrun] at h
      cases h
      rw [hblock state hrun]

/-- A check before the locked block refuses without a write. -/
theorem World.checked_failed {w : World} {c : Prop} [Decidable c] {e : AgentError}
    {p : Report × World} {fault : Fault AgentError} (hp : p.1 = .failed fault → p.2 = w)
    (h : (if c then (.failed (.error e), w) else p).1 = .failed fault) :
    (if c then (.failed (.error e), w) else p).2 = w := by
  split_ifs at h ⊢
  · rfl
  · exact hp h

/-- In every reachable state, an operation that returns an error before a Turn becomes
active leaves the world as it was. -/
theorem World.Reachable.refused_atomic {w : World} (h : w.Reachable) (fault : Fault AgentError) :
    (∀ task s t input deadline, (w.submitTurn task s t input deadline).1 = .failed fault →
      (w.submitTurn task s t input deadline).2 = w) ∧
    (∀ s t, (w.cancel s t).1 = .failed fault → (w.cancel s t).2 = w) ∧
    (∀ c definition prompt, (w.activateProfile c definition prompt).1 = .failed fault →
      (w.activateProfile c definition prompt).2 = w) ∧
    ∀ task c, (w.deactivateProfile task c).1 = .failed fault →
      (w.deactivateProfile task c).2 = w := by
  have hwf := h.inv.wellFormed
  refine ⟨fun task s t input deadline hfailed => ?_, fun s t hfailed => ?_,
    fun c definition prompt hfailed => ?_, fun task c hfailed => ?_⟩
  · rw [submitTurn] at hfailed ⊢
    split at hfailed
    · rfl
    split at hfailed
    · rfl
    refine checked_failed (fun hfailed => ?_) hfailed
    refine locked_failed (fun admission w' => ?_) (fun state hrun => ?_) hfailed
    · cases admission <;> exact Report.noConfusion
    · have hcase := submitTurn_case hwf s t input
      rw [hrun] at hcase
      exact hcase.error_state
  · refine checked_failed (fun hfailed => ?_) hfailed
    refine locked_failed (fun _ _ h => by cases h) (fun state hrun => ?_) hfailed
    have hcase := cancel_case hwf s t
    rw [hrun] at hcase
    exact hcase.error_state
  · refine checked_failed (checked_failed fun hfailed => ?_) hfailed
    exact locked_failed (fun _ _ h => by cases h)
      (fun state hrun => activateProfile_error hrun) hfailed
  · refine checked_failed (fun hfailed => ?_) hfailed
    refine locked_failed (fun waits w' => ?_) (fun state hrun => deactivateProfile_error hrun)
      hfailed
    cases waits <;> exact Report.noConfusion

/-- A session with no slot left, in a service that takes Turns: submission and
cancellation are both refused there. -/
theorem World.Reachable.refused_atomic_full :
    ∃ w : World, w.Reachable ∧ (w.state.session ⟨⟨1⟩⟩).pendingCancellations.length = 32 ∧
      (∃ fault, (w.submitTurn 0 ⟨⟨1⟩⟩ ⟨⟨99⟩⟩ "alpha" 1).1 = .failed fault) ∧
      (w.submitTurn 0 ⟨⟨1⟩⟩ ⟨⟨99⟩⟩ "alpha" 1).2 = w ∧ (w.cancel ⟨⟨1⟩⟩ ⟨⟨99⟩⟩).2 = w := by
  obtain ⟨tr, w, hrun, -, hw⟩ := service.exec_any (World.created .deterministic)
    ([.start, .activateProfile ⟨⟨1⟩⟩ ⟨BUILTIN_AGENT_DEFINITION⟩ "prompt"] ++
      (List.range 32).map fun i => .cancel ⟨⟨1⟩⟩ ⟨⟨BitVec.ofNat 128 i⟩⟩)
    (fun q => (q.2.state.session ⟨⟨1⟩⟩).pendingCancellations.length = 32 ∧
      (q.2.submitTurn 0 ⟨⟨1⟩⟩ ⟨⟨99⟩⟩ "alpha" 1).1 = .failed
        (.error ⟨"Agent session terminal capacity is full; create a new Session"⟩) ∧
      (q.2.cancel ⟨⟨1⟩⟩ ⟨⟨99⟩⟩).1 = .failed
        (.error ⟨"Agent session terminal capacity is full; create a new Session"⟩))
    (by decide +kernel)
  obtain ⟨hlen, hsubmit, hcancel⟩ := of_decide_eq_true hw
  have hreach : w.Reachable := ⟨_, tr, hrun⟩
  obtain ⟨hsubmits, hcancels, -⟩ := World.Reachable.refused_atomic hreach
    (.error ⟨"Agent session terminal capacity is full; create a new Session"⟩)
  exact ⟨w, hreach, hlen, ⟨_, hsubmit⟩, hsubmits _ _ _ _ _ hsubmit, hcancels _ _ hcancel⟩

end Paraegox.Agent
