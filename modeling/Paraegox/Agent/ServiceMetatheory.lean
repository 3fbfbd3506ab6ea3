import Paraegox.Agent.Phase
import Paraegox.Agent.Service

/-!
# Inversion of a step and the invariant of the service

`World.Change` lists what a step of the service can be.  `World.next_change` is
the inversion: under the invariant every enabled step is one of them, so nothing
panics and every refusal leaves the world as it was.  `World.Inv` adds to the
representation invariant that the active Turn and the armed guard are the same
thing, and where a `stop` stands.
-/

namespace Paraegox.Agent

open Deck (CardDefinitionRef)
open Paraegox.Runtime (CardInstanceId)

/-! ## Changes -/

/-- The errors a step may return. -/
def refusals : List AgentError :=
  [⟨"Agent input must not be empty"⟩,
    ⟨"Agent input exceeds 4 KiB"⟩,
    ⟨"Agent input must not contain control characters"⟩,
    ⟨"Agent turn deadline must be greater than zero and at most 60 seconds"⟩,
    ownerUnavailable,
    ⟨"AgentService is not running"⟩,
    ⟨"no Agent Card is active"⟩,
    ⟨"TurnId was already completed with different input"⟩,
    ⟨"AgentService is busy with another turn"⟩,
    ⟨"Agent session terminal capacity is full; create a new Session"⟩,
    ⟨"Agent Card definition does not match the configured provider"⟩,
    ⟨"an Agent profile is already active"⟩,
    ⟨"another Agent Card owns the active profile"⟩,
    ⟨"AgentService can only start from Created"⟩]

/-- The lifecycle moves, the profile is cleared and the active Turn is flagged. -/
def AgentState.revoke (state : AgentState) (lifecycle : ServiceLifecycle) : AgentState :=
  ({ state with lifecycle, activeProfile := none } : AgentState).cancelActiveTurn

section

variable (state : AgentState) (l : ServiceLifecycle)

@[simp] theorem AgentState.revoke_lifecycle : (state.revoke l).lifecycle = l := rfl
@[simp] theorem AgentState.revoke_activeProfile : (state.revoke l).activeProfile = none := rfl
@[simp] theorem AgentState.revoke_sessions : (state.revoke l).sessions = state.sessions := rfl
@[simp] theorem AgentState.revoke_activeTurn :
    (state.revoke l).activeTurn = state.cancelActiveTurn.activeTurn := rfl
@[simp] theorem AgentState.finishStop_lifecycle : state.finishStop.lifecycle = .stopped := rfl

end

/-- The labels of a future that waits until the service is idle. -/
def Action.Waits : Action → Prop
  | .stopPoll | .stopInterrupted | .deactivatePoll _ | .deactivateInterrupted _ => True
  | _ => False

/-- What a step of the service can be. -/
inductive World.Change (w : World) : Action → Report → World → Prop where
  | refused {a : Action} {e : AgentError} : e ∈ refusals → Change w a (.failed (.error e)) w
  | waited {a : Action} {r : Report} (stopping : Option WaitPhase)
      (draining : AList fun _ : TaskId => WaitPhase) : a.Waits → r = .silent ∨ r = .done →
      (∀ p, stopping = some p →
        w.stopping.isSome ∧ (p = .idle → w.state.activeTurn = none)) →
      Change w a r { w with stopping, draining }
  | started : w.state.lifecycle = .created →
      Change w .start .done { w with state := { w.state with lifecycle := .running } }
  | stopped {a : Action} : a = .stop ∨ a = .stopFinish → w.owned = true →
      w.state.activeTurn = none →
      Change w a .done { w with state := w.state.finishStop, stopping := none }
  | stopping : w.owned = true →
      w.state.lifecycle = .running ∨ w.state.lifecycle = .stopping →
      Change w .stop .silent
        { w with state := w.state.revoke .stopping, stopping := some .top }
  | dropped : w.owned = true → w.stopping = none →
      Change w .dropService .silent
        { w with state := w.state.revoke .stopped, owned := false }
  | activated {c : CardInstanceId} {d : CardDefinitionRef} {prompt : String} :
      w.state.lifecycle = .running → w.state.activeProfile = none →
      Change w (.activateProfile c d prompt) .done
        { w with state := { w.state with activeProfile := some ⟨c, prompt⟩ } }
  | deactivated {task : TaskId} {profile : ActiveProfile} :
      w.state.activeProfile = some profile →
      Change w (.deactivateProfile task profile.cardInstanceId) .silent
        { w with
          state := w.state.revoke w.state.lifecycle
          draining := w.draining.insert task .top }
  | notActivated {task : TaskId} {c : CardInstanceId} : w.state.activeProfile = none →
      Change w (.deactivateProfile task c) .done w
  | replayed {task : TaskId} {s : SessionId} {t : TurnId} {input : String} {deadline : Duration}
      {completed : CompletedTurn} : w.state.lifecycle = .running →
      w.state.completed? s t = some completed → completed.input = input →
      Change w (.submitTurn task s t input deadline) (.turn ⟨s, t, completed.terminal⟩) w
  | consumed {task : TaskId} {s : SessionId} {t : TurnId} {input : String}
      {deadline : Duration} : w.state.lifecycle = .running → w.state.completed? s t = none →
      w.state.Tombstoned s t →
      Change w (.submitTurn task s t input deadline) (.turn ⟨s, t, .cancelled⟩)
        { w with state := w.state.setSession s ((w.state.session s).consume t input) }
  | overflowed {task : TaskId} {s : SessionId} {t : TurnId} {input : String}
      {deadline : Duration} {profile : ActiveProfile} {reason : TurnFailure} :
      w.state.lifecycle = .running → w.state.activeProfile = some profile →
      w.state.completed? s t = none → ¬ w.state.Tombstoned s t → w.state.activeTurn = none →
      (w.state.occupied s).length < MAX_RETAINED_TURNS_PER_SESSION →
      buildModelContext profile.systemPrompt (w.state.session s) input = .error reason →
      Change w (.submitTurn task s t input deadline) (.turn ⟨s, t, .failed reason⟩)
        { w with state :=
            (w.state.ensured s).setSession s ((w.state.session s).record t input (.failed reason)) }
  | admitted {task : TaskId} {s : SessionId} {t : TurnId} {input : String}
      {deadline : Duration} {profile : ActiveProfile} {context : ModelContext} :
      task ∉ w.calls → w.state.lifecycle = .running → w.state.activeProfile = some profile →
      w.state.completed? s t = none → ¬ w.state.Tombstoned s t → w.state.activeTurn = none →
      (w.state.occupied s).length < MAX_RETAINED_TURNS_PER_SESSION →
      buildModelContext profile.systemPrompt (w.state.session s) input = .ok context →
      Change w (.submitTurn task s t input deadline) (.admitted context)
        { w with
          state := (w.state.ensured s).setActive (some ⟨s, t, false⟩)
          calls := w.calls.insert task ⟨⟨s, t, input⟩, context, .admitted⟩ }
  | called {task : TaskId} {call : Call} : w.calls.lookup task = some call →
      call.phase = .admitted →
      Change w (.callProvider task) (.providerCalled call.context)
        { w with calls := w.calls.insert task { call with phase := .calling } }
  | left {a : Action} {task : TaskId} {call : Call} {phase : CallPhase} :
      a = .abort task ∨ (∃ branch, a = .select task branch) →
      w.calls.lookup task = some call → call.phase = .admitted ∨ call.phase = .calling →
      phase = .dropping ∨ (∃ proposed, phase = .decided proposed) →
      Change w a .silent { w with calls := w.calls.insert task { call with phase } }
  | settled {a : Action} {r : Report} {task : TaskId} {call : Call} {flag : Bool}
      {terminal : TurnTerminal} : w.calls.lookup task = some call → call.armed = true →
      w.state.activeTurn = some ⟨call.guard.sessionId, call.guard.turnId, flag⟩ →
      (flag = true ∨ w.state.lifecycle ≠ .running ∨ w.state.activeProfile = none →
        terminal = .cancelled) →
      (a = .complete task ∧
          r = .turn ⟨call.guard.sessionId, call.guard.turnId, terminal⟩) ∨
        (a = .dropGuard task ∧ r = .silent ∧ terminal = .cancelled) →
      Change w a r
        { w with
          state := w.state.settle call.guard.sessionId call.guard.turnId call.guard.input terminal
          calls := w.calls.insert task { call with phase := .notifying } }
  | notified {task : TaskId} {call : Call} : w.calls.lookup task = some call →
      call.phase = .notifying →
      Change w (.notify task) .silent
        { w with calls := w.calls.erase task, notified := w.notified + 1 }
  | alreadyTerminal {s : SessionId} {t : TurnId} {completed : CompletedTurn} :
      w.state.completed? s t = some completed →
      Change w (.cancel s t) (.cancel s t (.alreadyTerminal completed.terminal)) w
  | flagged {s : SessionId} {t : TurnId} : w.state.Active s t →
      Change w (.cancel s t) (.cancel s t .cancellationRequested)
        { w with state := w.state.cancelActiveTurn }
  | notActive {s : SessionId} {t : TurnId} :
      w.state.lifecycle ≠ .running ∨ w.state.activeProfile = none →
      Change w (.cancel s t) (.cancel s t .notActive) w
  | pending {s : SessionId} {t : TurnId} : w.state.Tombstoned s t →
      Change w (.cancel s t) (.cancel s t .cancellationRequested) w
  | tombstoned {s : SessionId} {t : TurnId} : w.state.lifecycle = .running →
      w.state.completed? s t = none → ¬ w.state.Active s t → ¬ w.state.Tombstoned s t →
      (w.state.occupied s).length < MAX_RETAINED_TURNS_PER_SESSION →
      Change w (.cancel s t) (.cancel s t .cancellationRequested)
        { w with state :=
            (w.state.ensured s).setSession s ((w.state.session s).bury t) }

/-! ## The invariant -/

/-- The frame holds the armed guard of this Turn. -/
def Armed (calls : AList fun _ : TaskId => Call) (task : TaskId) (s : SessionId) (t : TurnId) :
    Prop :=
  ∃ call, calls.lookup task = some call ∧ call.armed = true ∧
    call.guard.sessionId = s ∧ call.guard.turnId = t

/-- The active Turn is the one whose guard is armed. -/
structure Slot (state : AgentState) (calls : AList fun _ : TaskId => Call) : Prop where
  armed : ∀ s t, state.Active s t ↔ ∃ task, Armed calls task s t
  alone : ∀ {task task' s s' t t'}, Armed calls task s t → Armed calls task' s' t' → task = task'

/-- The invariant of the service. -/
structure World.Inv (w : World) : Prop where
  wellFormed : w.state.WellFormed
  slot : Slot w.state w.calls
  created : w.state.lifecycle = .created → w.state.activeTurn = none
  stopped : w.owned = true → w.state.lifecycle = .stopped → w.state.activeTurn = none
  stopping : ∀ p, w.stopping = some p →
    w.owned = true ∧ w.state.lifecycle = .stopping ∧ (p = .idle → w.state.activeTurn = none)

theorem Armed.insert_iff {calls : AList fun _ : TaskId => Call} {task task' : TaskId} {call : Call}
    {s : SessionId} {t : TurnId} :
    Armed (calls.insert task call) task' s t ↔
      if task' = task then
        call.armed = true ∧ call.guard.sessionId = s ∧ call.guard.turnId = t
      else Armed calls task' s t := by
  simp only [Armed]
  split_ifs with h
  · subst h
    simp
  · simp [AList.lookup_insert_ne h]

/-- A frame that moves on keeps its guard as it was. -/
theorem Slot.rephase {state : AgentState} {calls : AList fun _ : TaskId => Call}
    (h : Slot state calls) {task : TaskId} {call : Call} (hl : calls.lookup task = some call)
    {phase : CallPhase} (harmed : ({ call with phase } : Call).armed = call.armed) :
    Slot state (calls.insert task { call with phase }) := by
  have hiff : ∀ task' s t, Armed (calls.insert task { call with phase }) task' s t ↔
      Armed calls task' s t := by
    intro task' s t
    rw [Armed.insert_iff]
    split_ifs with heq
    · subst heq
      simp [Armed, hl, harmed]
    · rfl
  exact ⟨fun s t => by simp only [hiff, h.armed],
    fun h₁ h₂ => h.alone ((hiff _ _ _).mp h₁) ((hiff _ _ _).mp h₂)⟩

/-- The slot reads which Turn is active, not its flag. -/
theorem Slot.congr {state state' : AgentState} {calls : AList fun _ : TaskId => Call}
    (h : Slot state calls) (ha : ∀ s t, state'.Active s t ↔ state.Active s t) :
    Slot state' calls :=
  ⟨fun s t => (ha s t).trans (h.armed s t), h.alone⟩

theorem Slot.not_armed {state : AgentState} {calls : AList fun _ : TaskId => Call}
    (h : Slot state calls) (hidle : state.activeTurn = none) (task : TaskId) (s : SessionId)
    (t : TurnId) : ¬ Armed calls task s t := fun harmed => by
  obtain ⟨flag, ha⟩ := (h.armed s t).mpr ⟨task, harmed⟩
  rw [hidle] at ha
  cases ha

@[simp] theorem AgentState.active_cancelActiveTurn {state : AgentState} {s : SessionId}
    {t : TurnId} : state.cancelActiveTurn.Active s t ↔ state.Active s t := by
  simp only [Active, cancelActiveTurn]
  cases state.activeTurn with
  | none => simp
  | some active =>
      obtain ⟨s', t', flag⟩ := active
      simp

@[simp] theorem AgentState.active_revoke {state : AgentState} {l : ServiceLifecycle}
    {s : SessionId} {t : TurnId} : (state.revoke l).Active s t ↔ state.Active s t :=
  active_cancelActiveTurn

/-! ## Inversion -/

theorem validateInput_refusal {input : String} {e : AgentError}
    (h : validateInput input = .error e) : e ∈ refusals := by
  rw [validateInput] at h
  split_ifs at h <;> cases h <;> decide

theorem validateTurnDeadline_refusal {deadline : Duration} {e : AgentError}
    (h : validateTurnDeadline deadline = .error e) : e ∈ refusals := by
  rw [validateTurnDeadline] at h
  split_ifs at h
  cases h
  decide

theorem World.submitTurn_change {w : World} (h : w.state.WellFormed) {task : TaskId}
    (htask : task ∉ w.calls) (s : SessionId) (t : TurnId) (input : String)
    (deadline : Duration) :
    w.Change (.submitTurn task s t input deadline) (w.submitTurn task s t input deadline).1
      (w.submitTurn task s t input deadline).2 := by
  rw [submitTurn]
  cases hin : validateInput input with
  | error e => exact .refused (validateInput_refusal hin)
  | ok _ =>
      cases hdl : validateTurnDeadline deadline with
      | error e => exact .refused (validateTurnDeadline_refusal hdl)
      | ok _ =>
          by_cases hup : w.upgrades
          swap
          · simp only [hup]
            exact .refused (by decide)
          simp only [hup, not_true_eq_false, ↓reduceIte, locked]
          have hcase := submitTurn_case h s t input
          generalize hr : EStateM.run (Agent.submitTurn s t input) w.state = result at hcase
          cases hcase with
          | notRunning _ => exact .refused (by decide)
          | noProfile _ _ => exact .refused (by decide)
          | conflict _ _ _ _ => exact .refused (by decide)
          | replayed hrun _ hc heq => exact .replayed hrun hc heq
          | consumed hrun _ hc ht => exact .consumed hrun hc ht
          | busy _ _ _ _ _ => exact .refused (by decide)
          | full _ _ _ _ _ _ => exact .refused (by decide)
          | overflow hrun hp hc ht hidle hfree hb => exact .overflowed hrun hp hc ht hidle hfree hb
          | admitted hrun hp hc ht hidle hfree hb =>
              exact .admitted htask hrun hp hc ht hidle hfree hb

theorem World.cancel_change {w : World} (h : w.state.WellFormed) (s : SessionId) (t : TurnId) :
    w.Change (.cancel s t) (w.cancel s t).1 (w.cancel s t).2 := by
  rw [cancel]
  by_cases hup : w.upgrades
  swap
  · simp only [hup]
    exact .refused (by decide)
  simp only [hup, not_true_eq_false, ↓reduceIte, locked]
  have hcase := cancel_case h s t
  generalize hr : EStateM.run (Agent.cancel s t) w.state = result at hcase
  cases hcase with
  | alreadyTerminal hc => exact .alreadyTerminal hc
  | flagged _ ha => exact .flagged ha
  | notActive _ _ hclosed => exact .notActive hclosed
  | pending _ _ _ ht => exact .pending ht
  | full _ _ _ _ => exact .refused (by decide)
  | tombstoned hc ha hrun ht hfree => exact .tombstoned hrun hc ha ht hfree

theorem World.complete_change {w : World} (h : w.Inv) {task : TaskId} {call : Call}
    {proposed : TurnTerminal} (hl : w.calls.lookup task = some call)
    (hp : call.phase = .decided proposed) :
    w.Change (.complete task) (w.complete task call proposed).1
      (w.complete task call proposed).2 := by
  have harmed : call.armed = true := by simp [Call.armed, hp]
  obtain ⟨flag, ha⟩ := (h.slot.armed _ _).mpr ⟨task, call, hl, harmed, rfl, rfl⟩
  rw [complete]
  rw [ActiveTurnGuard.complete_run h.wellFormed ⟨flag, ha⟩]
  refine .settled hl harmed ha (fun hrev => if_pos ?_) (.inl ⟨rfl, rfl⟩)
  simpa [ha] using hrev

theorem World.dropGuard_change {w : World} (h : w.Inv) {task : TaskId} {call : Call}
    (hl : w.calls.lookup task = some call) (hp : call.phase = .dropping) :
    w.Change (.dropGuard task) (w.dropGuard task call).1 (w.dropGuard task call).2 := by
  have harmed : call.armed = true := by simp [Call.armed, hp]
  obtain ⟨flag, ha⟩ := (h.slot.armed _ _).mpr ⟨task, call, hl, harmed, rfl, rfl⟩
  rw [dropGuard]
  rw [ActiveTurnGuard.drop_run h.wellFormed ⟨flag, ha⟩]
  exact .settled hl harmed ha (fun _ => rfl) (.inr ⟨rfl, rfl, rfl⟩)

theorem World.activateProfile_change (w : World) (c : CardInstanceId) (d : CardDefinitionRef)
    (prompt : String) :
    w.Change (.activateProfile c d prompt) (w.activateProfile c d prompt).1
      (w.activateProfile c d prompt).2 := by
  rw [activateProfile]
  by_cases hup : w.upgrades
  swap
  · simp only [hup]
    exact .refused (by decide)
  by_cases hdef : w.provider.cardDefinition = d.value
  swap
  · simp only [hup, hdef, not_true_eq_false, ne_eq, not_false_eq_true, ↓reduceIte]
    exact .refused (by decide)
  simp only [hup, hdef, not_true_eq_false, ne_eq, ↓reduceIte, locked, activateProfile_run]
  by_cases hrun : w.state.lifecycle = .running
  swap
  · rw [if_pos hrun]
    exact .refused (by decide)
  rw [if_neg (not_not.mpr hrun)]
  cases hp : w.state.activeProfile with
  | some profile => exact .refused (by decide)
  | none => exact .activated hrun hp

theorem World.deactivateProfile_change (w : World) (task : TaskId) (c : CardInstanceId) :
    w.Change (.deactivateProfile task c) (w.deactivateProfile task c).1
      (w.deactivateProfile task c).2 := by
  rw [deactivateProfile]
  by_cases hup : w.upgrades
  swap
  · simp only [hup]
    exact .refused (by decide)
  simp only [hup, not_true_eq_false, ↓reduceIte, locked, Agent.deactivateProfile,
    EStateM.run_bind, EStateM.run_get]
  cases hp : w.state.activeProfile with
  | none => exact .notActivated hp
  | some profile =>
      by_cases hc : profile.cardInstanceId = c
      · subst hc
        simp only [↓reduceIte]
        exact .deactivated hp
      · simp only [hc, ↓reduceIte]
        exact .refused (by decide)

theorem World.start_change (w : World) :
    w.Change .start (w.locked Agent.start fun _ w => (.done, w)).1
      (w.locked Agent.start fun _ w => (.done, w)).2 := by
  simp only [locked, Agent.start, EStateM.run_bind, EStateM.run_get]
  split_ifs with hcreated
  · exact .refused (by decide)
  · exact .started (not_not.mp hcreated)

/-- The first block of `stop_inner`, with the wait it begins. -/
theorem World.stop_change {w : World} (h : w.Inv) (howned : w.owned = true)
    (hfree : w.stopping = none) :
    w.Change .stop
      (w.locked beginStop fun waits w =>
        if waits then (.silent, { w with stopping := some .top }) else (.done, w)).1
      (w.locked beginStop fun waits w =>
        if waits then (.silent, { w with stopping := some .top }) else (.done, w)).2 := by
  have hstopped : w.state.activeTurn = none →
      w.Change .stop .done { w with state := w.state.finishStop } := by
    intro hidle
    have := Change.stopped (a := .stop) (.inl rfl) howned hidle
    rwa [← hfree] at this
  simp only [locked, beginStop, EStateM.run_bind, EStateM.run_get]
  cases hl : w.state.lifecycle with
  | created => exact hstopped (h.created hl)
  | running => exact .stopping howned (.inl hl)
  | stopping => exact .stopping howned (.inr hl)
  | stopped =>
      have heq : w.state.finishStop = w.state := by
        rw [AgentState.finishStop, ← hl]
      have := hstopped (h.stopped howned hl)
      rwa [heq] at this

/-- A wait ends only when there is no active Turn. -/
theorem World.pollWait_idle {w : World} {p p' : WaitPhase} (h : w.pollWait p = some p') :
    p' = .idle → w.state.activeTurn = none := by
  rintro rfl
  cases p with
  | top => simp [pollWait] at h
  | created seen =>
      simp only [pollWait] at h
      split_ifs at h with hidle
      · simpa using hidle
      · cases h
  | parked seen => simp [pollWait] at h
  | idle => simp [pollWait] at h

theorem World.Inv.waiting {w : World} (h : w.Inv) (p : WaitPhase) (hp : w.stopping = some p) :
    w.stopping.isSome ∧ (p = .idle → w.state.activeTurn = none) :=
  ⟨by simp [hp], (h.stopping p hp).2.2⟩

/-- Under the invariant every enabled step is one of the changes. -/
theorem World.next_change {w w' : World} (h : w.Inv) {a : Action} {r : Report}
    (hn : w.next a = some (r, w')) : w.Change a r w' := by
  cases a with
  | start =>
      simp only [next, Option.ite_none_right_eq_some, Option.some.injEq] at hn
      obtain ⟨-, hn⟩ := hn
      have := w.start_change
      rwa [hn] at this
  | stop =>
      simp only [next, Option.ite_none_right_eq_some, Option.some.injEq] at hn
      obtain ⟨⟨howned, hfree⟩, hn⟩ := hn
      have := stop_change h howned (by simpa using hfree)
      rwa [hn] at this
  | stopPoll =>
      simp only [next, Option.map_eq_some_iff, Option.bind_eq_some_iff, Prod.mk.injEq] at hn
      obtain ⟨phase, ⟨p, hp, hpoll⟩, rfl, rfl⟩ := hn
      refine .waited _ w.draining trivial (.inl rfl) ?_
      intro p' hp'
      cases hp'
      exact ⟨by simp [hp], pollWait_idle hpoll⟩
  | stopInterrupted =>
      simp only [next] at hn
      split at hn
      · cases hn
        exact .waited _ w.draining trivial (.inl rfl) nofun
      · cases hn
  | stopFinish =>
      simp only [next, Option.ite_none_right_eq_some, Option.some.injEq, Prod.mk.injEq] at hn
      obtain ⟨hs, rfl, rfl⟩ := hn
      obtain ⟨howned, -, hidle⟩ := h.stopping _ hs
      exact .stopped (.inr rfl) howned (hidle rfl)
  | dropService =>
      simp only [next, Option.ite_none_right_eq_some, Option.some.injEq, Prod.mk.injEq] at hn
      obtain ⟨⟨howned, hfree⟩, rfl, rfl⟩ := hn
      exact .dropped howned (by simpa using hfree)
  | activateProfile c d prompt =>
      simp only [next, Option.some.injEq] at hn
      have := w.activateProfile_change c d prompt
      rwa [hn] at this
  | deactivateProfile task c =>
      simp only [next, Option.ite_none_left_eq_some, Option.some.injEq] at hn
      have := w.deactivateProfile_change task c
      rwa [hn.2] at this
  | deactivatePoll task =>
      simp only [next, Option.map_eq_some_iff, Option.bind_eq_some_iff] at hn
      obtain ⟨phase, ⟨p, hp, hpoll⟩, hn⟩ := hn
      split at hn
      · cases hn
        exact .waited w.stopping _ trivial (.inr rfl) h.waiting
      · cases hn
        exact .waited w.stopping _ trivial (.inl rfl) h.waiting
  | deactivateInterrupted task =>
      simp only [next] at hn
      split at hn
      · cases hn
        exact .waited w.stopping _ trivial (.inl rfl) h.waiting
      · cases hn
  | submitTurn task s t input deadline =>
      simp only [next, Option.ite_none_left_eq_some, Option.some.injEq] at hn
      have := submitTurn_change h.wellFormed hn.1 s t input deadline
      rwa [hn.2] at this
  | callProvider task =>
      simp only [next, Option.bind_eq_some_iff, Option.ite_none_right_eq_some, Option.some.injEq,
        Prod.mk.injEq] at hn
      obtain ⟨call, hl, hp, rfl, rfl⟩ := hn
      exact .called hl hp
  | select task branch =>
      simp only [next, Option.bind_eq_some_iff, select, Option.ite_none_right_eq_some,
        Option.map_eq_some_iff, Prod.mk.injEq] at hn
      obtain ⟨call, hl, hp, terminal, -, rfl, rfl⟩ := hn
      exact .left (.inr ⟨branch, rfl⟩) hl hp (.inr ⟨_, rfl⟩)
  | complete task =>
      simp only [next, Option.bind_eq_some_iff] at hn
      obtain ⟨call, hl, hn⟩ := hn
      split at hn
      · next proposed hp =>
          have := complete_change h hl hp
          rwa [Option.some.inj hn] at this
      · cases hn
  | abort task =>
      simp only [next, Option.bind_eq_some_iff, Option.ite_none_right_eq_some, Option.some.injEq,
        Prod.mk.injEq] at hn
      obtain ⟨call, hl, hp, rfl, rfl⟩ := hn
      exact .left (.inl rfl) hl hp (.inl rfl)
  | dropGuard task =>
      simp only [next, Option.bind_eq_some_iff, Option.ite_none_right_eq_some,
        Option.some.injEq] at hn
      obtain ⟨call, hl, hp, hn⟩ := hn
      have := dropGuard_change h hl hp
      rwa [hn] at this
  | notify task =>
      simp only [next, Option.bind_eq_some_iff, Option.ite_none_right_eq_some, Option.some.injEq,
        Prod.mk.injEq] at hn
      obtain ⟨call, hl, hp, rfl, rfl⟩ := hn
      exact .notified hl hp
  | cancel s t =>
      simp only [next, Option.some.injEq] at hn
      have := cancel_change h.wellFormed s t
      rwa [hn] at this

/-! ## The invariant is kept -/

theorem AgentState.Step.refl (state : AgentState) : state.Step state :=
  .governed rfl rfl (.inl rfl)

/-- What a change does to the state behind the lock. -/
theorem World.Change.step {w w' : World} {a : Action} {r : Report} (h : w.Change a r w') :
    w.state.Step w'.state := by
  cases h with
  | refused _ | waited _ _ _ _ _ | notActivated _ | replayed _ _ _ | called _ _ | left _ _ _ _
  | notified _ _ | alreadyTerminal _ | notActive _ | pending _ => exact .refl _
  | started _ | stopped _ _ _ | activated _ _ => exact .governed rfl rfl (.inl rfl)
  | stopping _ _ | dropped _ _ | deactivated _ | flagged _ => exact .governed rfl rfl (.inr rfl)
  | consumed _ hc ht => exact .consumed hc ht
  | overflowed _ _ hc ht hidle hfree _ => exact .overflowed hc ht hidle hfree
  | admitted _ _ _ hc ht hidle hfree _ => exact .admitted hc ht hidle hfree
  | settled _ _ ha hterm _ => exact .settled ha fun hflag => hterm (.inl hflag)
  | tombstoned _ hc ha ht hfree => exact .tombstoned hc ha ht hfree

theorem AgentState.active_setActive {state : AgentState} {s s' : SessionId} {t t' : TurnId} :
    (state.setActive (some ⟨s, t, false⟩)).Active s' t' ↔ s' = s ∧ t' = t := by
  simp [Active, eq_comm]

theorem World.Change.slot {w w' : World} {a : Action} {r : Report} (h : w.Inv)
    (hc : w.Change a r w') : Slot w'.state w'.calls := by
  have hslot := h.slot
  cases hc with
  | refused _ | waited _ _ _ _ _ | notActivated _ | replayed _ _ _ | alreadyTerminal _ | notActive _
  | pending _ => exact hslot
  | started _ | stopped _ _ _ | activated _ _ => exact hslot.congr fun _ _ => Iff.rfl
  | stopping _ _ | dropped _ _ | deactivated _ =>
      exact hslot.congr fun _ _ => AgentState.active_revoke
  | flagged _ => exact hslot.congr fun _ _ => AgentState.active_cancelActiveTurn
  | consumed _ _ _ => exact hslot.congr fun _ _ => Iff.rfl
  | overflowed _ _ _ _ _ _ _ | tombstoned _ _ _ _ _ =>
      exact hslot.congr fun _ _ => by simp [AgentState.Active]
  | called hl hp => exact hslot.rephase hl (by simp [Call.armed, hp])
  | left _ hl hp hphase =>
      refine hslot.rephase hl ?_
      rcases hphase with rfl | ⟨proposed, rfl⟩ <;> rcases hp with hp | hp <;> simp [Call.armed, hp]
  | @admitted task s t input deadline profile context htask _ _ _ _ hidle _ _ =>
      have hnone := hslot.not_armed hidle
      have hiff : ∀ task' s' t', Armed (w.calls.insert task ⟨⟨s, t, input⟩, context, .admitted⟩)
          task' s' t' ↔ task' = task ∧ s' = s ∧ t' = t := by
        intro task' s' t'
        rw [Armed.insert_iff]
        split_ifs with heq
        · simp [heq, Call.armed, eq_comm]
        · simp [heq, hnone]
      refine ⟨fun s' t' => ?_, fun h₁ h₂ => ?_⟩
      · simp only [hiff, AgentState.active_setActive]
        constructor
        · intro heq
          exact ⟨task, rfl, heq⟩
        · rintro ⟨_, _, heq⟩
          exact heq
      · exact ((hiff _ _ _).mp h₁).1.trans ((hiff _ _ _).mp h₂).1.symm
  | @settled a r task call flag terminal hl harmed ha _ _ =>
      have hnone : ∀ task' s t,
          ¬ Armed (w.calls.insert task { call with phase := .notifying }) task' s t := by
        intro task' s t
        rw [Armed.insert_iff]
        split_ifs with heq
        · simp [Call.armed]
        · exact fun harmed' => heq (hslot.alone harmed' ⟨call, hl, harmed, rfl, rfl⟩)
      refine ⟨fun s t => ?_, fun h₁ => absurd h₁ (hnone _ _ _)⟩
      simp [hnone, AgentState.Active, AgentState.settle]
  | @notified task call hl hp =>
      have hiff : ∀ task' s t, Armed (w.calls.erase task) task' s t ↔ Armed w.calls task' s t := by
        intro task' s t
        simp only [Armed]
        by_cases heq : task' = task
        · subst heq
          simp [hl, Call.armed, hp]
        · rw [AList.lookup_erase_ne heq]
      exact ⟨fun s t => by simp only [hiff, hslot.armed],
        fun h₁ h₂ => hslot.alone ((hiff _ _ _).mp h₁) ((hiff _ _ _).mp h₂)⟩

/-- How far a service has got; it never goes back. -/
def ServiceLifecycle.rank : ServiceLifecycle → Nat
  | .created => 0
  | .running => 1
  | .stopping => 2
  | .stopped => 3

theorem World.Change.rank_le {w w' : World} {a : Action} {r : Report} (hc : w.Change a r w') :
    w.state.lifecycle.rank ≤ w'.state.lifecycle.rank := by
  cases hc with
  | started hl => simp [hl, ServiceLifecycle.rank]
  | stopping _ hl => rcases hl with hl | hl <;> simp [hl, ServiceLifecycle.rank]
  | stopped _ _ _ | dropped _ _ => cases w.state.lifecycle <;> simp [ServiceLifecycle.rank]
  | overflowed _ _ _ _ _ _ _ | admitted _ _ _ _ _ _ _ _ | tombstoned _ _ _ _ _ => simp
  | _ => exact le_rfl

/-- Only an admission fills the slot. -/
theorem World.Change.idle {w w' : World} {a : Action} {r : Report} (hc : w.Change a r w')
    (hidle : w.state.activeTurn = none) (hclosed : w.state.lifecycle ≠ .running) :
    w'.state.activeTurn = none := by
  cases hc with
  | stopping _ _ | dropped _ _ | deactivated _ | flagged _ =>
      simp [AgentState.cancelActiveTurn, hidle]
  | admitted _ hrun _ _ _ _ _ _ => exact absurd hrun hclosed
  | overflowed hrun _ _ _ _ _ _ => exact absurd hrun hclosed
  | tombstoned hrun _ _ _ _ => exact absurd hrun hclosed
  | settled _ _ _ _ _ => rfl
  | _ => exact hidle

theorem World.Change.created {w w' : World} {a : Action} {r : Report} (h : w.Inv)
    (hc : w.Change a r w') (hl : w'.state.lifecycle = .created) : w'.state.activeTurn = none := by
  have hrank := hc.rank_le
  have hl' : w.state.lifecycle = .created := by
    cases hw : w.state.lifecycle <;> simp [hl, hw, ServiceLifecycle.rank] at hrank ⊢
  exact hc.idle (h.created hl') (by simp [hl'])

theorem World.Change.halted {w w' : World} {a : Action} {r : Report} (h : w.Inv)
    (hc : w.Change a r w') (howned : w'.owned = true) (hl : w'.state.lifecycle = .stopped) :
    w'.state.activeTurn = none := by
  have hidle := hc.idle
  cases hc with
  | stopped _ _ hnone => exact hnone
  | dropped _ _ => cases howned
  | stopping _ _ => cases hl
  | started _ => cases hl
  | overflowed hrun _ _ _ _ _ _ => simp [hrun] at hl
  | admitted _ hrun _ _ _ _ _ _ => simp [hrun] at hl
  | tombstoned hrun _ _ _ _ => simp [hrun] at hl
  | _ => exact hidle (h.stopped howned hl) (ne_of_eq_of_ne hl nofun)

theorem World.Change.waiting {w w' : World} {a : Action} {r : Report} (h : w.Inv)
    (hc : w.Change a r w') {p : WaitPhase} (hp : w'.stopping = some p) :
    w'.owned = true ∧ w'.state.lifecycle = .stopping ∧
      (p = .idle → w'.state.activeTurn = none) := by
  have hidle := hc.idle
  have hrun : ∀ q, w.stopping = some q → w.state.lifecycle ≠ .running := fun q hq => by
    simp [(h.stopping q hq).2.1]
  cases hc with
  | waited _ _ _ _ hstop =>
      obtain ⟨hsome, hend⟩ := hstop p hp
      obtain ⟨q, hq⟩ := Option.isSome_iff_exists.mp hsome
      obtain ⟨howned, hl, -⟩ := h.stopping q hq
      exact ⟨howned, hl, hend⟩
  | started hl => cases (h.stopping p hp).2.1.symm.trans hl
  | stopped _ _ _ => cases hp
  | stopping howned _ =>
      cases hp
      exact ⟨howned, rfl, nofun⟩
  | dropped _ hs => cases hs.symm.trans hp
  | activated hl _ => exact absurd hl (hrun p hp)
  | consumed hl _ _ => exact absurd hl (hrun p hp)
  | overflowed hl _ _ _ _ _ _ => exact absurd hl (hrun p hp)
  | admitted _ hl _ _ _ _ _ _ => exact absurd hl (hrun p hp)
  | tombstoned hl _ _ _ _ => exact absurd hl (hrun p hp)
  | _ =>
      obtain ⟨howned, hl, hend⟩ := h.stopping p hp
      exact ⟨howned, hl, fun he => hidle (hend he) (hrun p hp)⟩

theorem World.Change.inv {w w' : World} {a : Action} {r : Report} (h : w.Inv)
    (hc : w.Change a r w') : w'.Inv where
  wellFormed := h.wellFormed.step hc.step
  slot := hc.slot h
  created := hc.created h
  stopped := hc.halted h
  stopping _ hp := hc.waiting h hp

theorem World.created_inv (provider : CompletionProvider) : (World.created provider).Inv where
  wellFormed := AgentState.created_wellFormed
  slot := ⟨fun s t => by simp [Armed, AgentState.Active, created, AgentState.created],
    fun ⟨_, hl, _⟩ => by simp [created] at hl⟩
  created _ := rfl
  stopped _ hl := by cases hl
  stopping _ hp := by cases hp

/-- A step of the system is a change. -/
theorem Event.change {x : Event} (hx : service.Takes x) (h : x.pre.Inv) :
    x.pre.Change x.act x.report x.post := World.next_change h hx

theorem Event.inv (x : Event) (hx : service.Takes x) (h : x.pre.Inv) : x.post.Inv :=
  (Event.change hx h).inv h

theorem World.Reachable.inv {w : World} (h : w.Reachable) : w.Inv := by
  obtain ⟨provider, hr⟩ := h
  exact hr.invariant Event.inv (World.created_inv provider)

end Paraegox.Agent
