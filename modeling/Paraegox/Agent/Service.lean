import Paraegox.Agent.State
import Paraegox.Lib.Transition

/-!
# AgentService and everything that runs against it

A `World` is the service with all its callers.  Every locked block is one step.
What happens between two blocks is state of the caller that is between them.

* A `Call` is a `submit_turn` future past its admission.  It owns the armed
  guard until the guard completes or drops, and it owns the provider future
  while its phase is `calling`.
* The one `stop` future, since `stop` borrows the service mutably.
* The `deactivate_profile` futures, each in `wait_until_idle`.

All choice is in the labels: which party moves, which branch `select!` takes
and what the provider answered.  Time is not modelled, so a deadline may pass
at any moment of a provider call.
-/

namespace Paraegox.Agent

open Deck (CardDefinitionRef)
open Paraegox.Runtime (CardInstanceId)

/-- The name of a spawned future. -/
abbrev TaskId := Nat

/-! ## Parties -/

inductive CallPhase where
  /-- The guard is armed and `select!` was not polled yet. -/
  | admitted
  /-- The provider future was polled and is alive. -/
  | calling
  /-- `select!` chose a branch, so the provider future is gone. -/
  | decided (proposed : TurnTerminal)
  /-- The frame is being dropped: the provider future is gone, the guard is not. -/
  | dropping
  /-- The guard cleared the active Turn and has not notified the waiters yet. -/
  | notifying
deriving DecidableEq, Repr

/-- A `submit_turn` future past its admission. -/
structure Call where
  guard : ActiveTurnGuard
  context : ModelContext
  phase : CallPhase
deriving DecidableEq, Repr

/-- The guard of the frame is armed. -/
def Call.armed (call : Call) : Bool :=
  match call.phase with
  | .notifying => false
  | _ => true

/-- Where a future stands in the loop of `wait_until_idle`.  A `Notified` future
is ready once `notify_waiters` ran after it was created. -/
inductive WaitPhase where
  | top
  | created (seen : Nat)
  | parked (seen : Nat)
  | idle
deriving DecidableEq, Repr

structure World where
  provider : CompletionProvider
  /-- The `AgentService` value is alive. -/
  owned : Bool
  state : AgentState
  calls : AList fun _ : TaskId => Call
  stopping : Option WaitPhase
  draining : AList fun _ : TaskId => WaitPhase
  /-- How often `notify_waiters` ran. -/
  notified : Nat

/-- A service just built, before its start. -/
def World.created (provider : CompletionProvider) : World where
  provider := provider
  owned := true
  state := .created
  calls := ∅
  stopping := none
  draining := ∅
  notified := 0

/-- `AgentHandle::upgrade` succeeds: the service, a call or a waiter holds a
strong reference. -/
def World.upgrades (world : World) : Bool :=
  world.owned || !world.calls.entries.isEmpty || !world.draining.entries.isEmpty

/-- What `upgrade` returns otherwise. -/
def ownerUnavailable : AgentError := ⟨"AgentService owner is unavailable"⟩

/-! ## Labels and reports -/

/-- How `select!` in `submit_turn` ends. -/
inductive SelectBranch where
  | cancelled
  | answered (answer : Except TurnFailure String)
  | timedOut

inductive Action where
  | start
  | stop
  | stopPoll
  | stopInterrupted
  | stopFinish
  | dropService
  | activateProfile (cardInstanceId : CardInstanceId) (definition : CardDefinitionRef)
      (systemPrompt : String)
  | deactivateProfile (task : TaskId) (cardInstanceId : CardInstanceId)
  | deactivatePoll (task : TaskId)
  | deactivateInterrupted (task : TaskId)
  | submitTurn (task : TaskId) (sessionId : SessionId) (turnId : TurnId) (input : String)
      (deadline : Duration)
  | callProvider (task : TaskId)
  | select (task : TaskId) (branch : SelectBranch)
  | complete (task : TaskId)
  | abort (task : TaskId)
  | dropGuard (task : TaskId)
  | notify (task : TaskId)
  | cancel (sessionId : SessionId) (turnId : TurnId)

/-- What a step hands back. -/
inductive Report where
  /-- Nothing returned. -/
  | silent
  /-- `Ok(())`. -/
  | done
  /-- The call goes on with this context. -/
  | admitted (context : ModelContext)
  /-- `CompletionProvider::complete` was called with this context. -/
  | providerCalled (context : ModelContext)
  /-- A `submit_turn` returned `Ok`. -/
  | turn (result : TurnResult)
  /-- A `cancel` returned `Ok`. -/
  | cancel (sessionId : SessionId) (turnId : TurnId) (result : CancelResult)
  /-- An error was returned, or the code panicked. -/
  | failed (fault : Fault AgentError)
deriving DecidableEq, Repr

/-! ## Steps -/

/-- Run a locked block and continue with its value. -/
def World.locked (world : World) {α : Type} (block : Locked α)
    (k : α → World → Report × World) : Report × World :=
  match EStateM.run block world.state with
  | .ok value state => k value { world with state }
  | .error fault state => (.failed fault, { world with state })

/-- Replace a frame. -/
def World.setCall (world : World) (task : TaskId) (call : Call) : World :=
  { world with calls := world.calls.insert task call }

/-- One iteration step of `wait_until_idle`. -/
def World.pollWait (world : World) : WaitPhase → Option WaitPhase
  | .top => some (.created world.notified)
  | .created seen => if world.state.activeTurn.isNone then some .idle else some (.parked seen)
  | .parked seen => if seen ≠ world.notified then some .top else none
  | .idle => none

/-- `AgentHandle::submit_turn` up to the creation of the guard. -/
def World.submitTurn (world : World) (task : TaskId) (sessionId : SessionId) (turnId : TurnId)
    (input : String) (deadline : Duration) : Report × World :=
  match validateInput input with
  | .error error => (.failed (.error error), world)
  | .ok () =>
      match validateTurnDeadline deadline with
      | .error error => (.failed (.error error), world)
      | .ok () =>
          if ¬ world.upgrades then (.failed (.error ownerUnavailable), world)
          else
            world.locked (Agent.submitTurn sessionId turnId input) fun admission world =>
              match admission with
              | .settled terminal => (.turn ⟨sessionId, turnId, terminal⟩, world)
              | .admitted context =>
                  (.admitted context,
                    world.setCall task ⟨⟨sessionId, turnId, input⟩, context, .admitted⟩)

/-- `wait_for_cancellation` is ready: the flag is set, or its sender is gone. -/
def World.cancellationSeen (world : World) (guard : ActiveTurnGuard) : Bool :=
  match world.state.activeTurn with
  | none => true
  | some active => !active.is guard.sessionId guard.turnId || active.cancellation

/-- The terminal `select!` proposes, when it can take the branch.  The provider
answers, and its deadline passes, only once it was polled. -/
def World.proposal (world : World) (call : Call) : SelectBranch → Option TurnTerminal
  | .cancelled => if world.cancellationSeen call.guard then some .cancelled else none
  | .answered (.ok content) => if call.phase = .calling then some (.final content) else none
  | .answered (.error reason) => if call.phase = .calling then some (.failed reason) else none
  | .timedOut => if call.phase = .calling then some .timedOut else none

/-- `select!` ends and its terminal is made wire safe. -/
def World.select (world : World) (task : TaskId) (call : Call) (branch : SelectBranch) :
    Option (Report × World) :=
  if call.phase = .admitted ∨ call.phase = .calling then
    (world.proposal call branch).map fun terminal =>
      (.silent, world.setCall task
        { call with
          phase := .decided (wireSafeTerminal call.guard.sessionId call.guard.turnId terminal) })
  else none

/-- `ActiveTurnGuard::complete`.  When it stops early the guard is dropped while
still armed. -/
def World.complete (world : World) (task : TaskId) (call : Call) (proposed : TurnTerminal) :
    Report × World :=
  match EStateM.run (call.guard.complete proposed) world.state with
  | .ok terminal state =>
      (.turn ⟨call.guard.sessionId, call.guard.turnId, terminal⟩,
        ({ world with state }).setCall task { call with phase := .notifying })
  | .error fault state =>
      (.failed fault, ({ world with state }).setCall task { call with phase := .dropping })

/-- `Drop` of the guard.  A guard that cleared nothing notifies nobody. -/
def World.dropGuard (world : World) (task : TaskId) (call : Call) : Report × World :=
  match EStateM.run call.guard.drop world.state with
  | .ok true state =>
      (.silent, ({ world with state }).setCall task { call with phase := .notifying })
  | .ok false state => (.silent, { world with state, calls := world.calls.erase task })
  | .error fault state => (.failed fault, { world with state, calls := world.calls.erase task })

/-- `AgentHandle::activate_profile`. -/
def World.activateProfile (world : World) (cardInstanceId : CardInstanceId)
    (definition : CardDefinitionRef) (systemPrompt : String) : Report × World :=
  if ¬ world.upgrades then (.failed (.error ownerUnavailable), world)
  else if world.provider.cardDefinition ≠ definition.value then
    (.failed (.error ⟨"Agent Card definition does not match the configured provider"⟩), world)
  else world.locked (Agent.activateProfile cardInstanceId systemPrompt) fun _ world =>
    (.done, world)

/-- `AgentHandle::deactivate_profile` up to its wait. -/
def World.deactivateProfile (world : World) (task : TaskId) (cardInstanceId : CardInstanceId) :
    Report × World :=
  if ¬ world.upgrades then (.failed (.error ownerUnavailable), world)
  else world.locked (Agent.deactivateProfile cardInstanceId) fun waits world =>
    if waits then (.silent, { world with draining := world.draining.insert task .top })
    else (.done, world)

/-- `AgentHandle::cancel`. -/
def World.cancel (world : World) (sessionId : SessionId) (turnId : TurnId) : Report × World :=
  if ¬ world.upgrades then (.failed (.error ownerUnavailable), world)
  else world.locked (Agent.cancel sessionId turnId) fun result world =>
    (.cancel sessionId turnId result, world)

/-- The step a label names, where it is enabled. -/
def World.next (world : World) : Action → Option (Report × World)
  | .start =>
      if world.owned ∧ world.stopping.isNone then
        some (world.locked Agent.start fun _ world => (.done, world))
      else none
  | .stop =>
      if world.owned ∧ world.stopping.isNone then
        some (world.locked beginStop fun waits world =>
          if waits then (.silent, { world with stopping := some .top }) else (.done, world))
      else none
  | .stopPoll =>
      (world.stopping.bind world.pollWait).map fun phase =>
        (.silent, { world with stopping := some phase })
  | .stopInterrupted =>
      match world.stopping with
      | some (.parked _) => some (.silent, { world with stopping := none })
      | _ => none
  | .stopFinish =>
      if world.stopping = some .idle then
        some (.done, { world with state := world.state.finishStop, stopping := none })
      else none
  | .dropService =>
      if world.owned ∧ world.stopping.isNone then
        some (.silent, { world with state := world.state.dropService, owned := false })
      else none
  | .activateProfile cardInstanceId definition systemPrompt =>
      some (world.activateProfile cardInstanceId definition systemPrompt)
  | .deactivateProfile task cardInstanceId =>
      if task ∈ world.draining then none
      else some (world.deactivateProfile task cardInstanceId)
  | .deactivatePoll task =>
      ((world.draining.lookup task).bind world.pollWait).map fun phase =>
        match phase with
        | .idle => (.done, { world with draining := world.draining.erase task })
        | phase => (.silent, { world with draining := world.draining.insert task phase })
  | .deactivateInterrupted task =>
      match world.draining.lookup task with
      | some (.parked _) =>
          some (.silent, { world with draining := world.draining.erase task })
      | _ => none
  | .submitTurn task sessionId turnId input deadline =>
      if task ∈ world.calls then none
      else some (world.submitTurn task sessionId turnId input deadline)
  | .callProvider task =>
      (world.calls.lookup task).bind fun call =>
        if call.phase = .admitted then
          some (.providerCalled call.context, world.setCall task { call with phase := .calling })
        else none
  | .select task branch =>
      (world.calls.lookup task).bind fun call => world.select task call branch
  | .complete task =>
      (world.calls.lookup task).bind fun call =>
        match call.phase with
        | .decided proposed => some (world.complete task call proposed)
        | _ => none
  | .abort task =>
      (world.calls.lookup task).bind fun call =>
        if call.phase = .admitted ∨ call.phase = .calling then
          some (.silent, world.setCall task { call with phase := .dropping })
        else none
  | .dropGuard task =>
      (world.calls.lookup task).bind fun call =>
        if call.phase = .dropping then some (world.dropGuard task call) else none
  | .notify task =>
      (world.calls.lookup task).bind fun call =>
        if call.phase = .notifying then
          some (.silent, { world with
            calls := world.calls.erase task, notified := world.notified + 1 })
        else none
  | .cancel sessionId turnId => some (world.cancel sessionId turnId)

/-- The system every result about the service is a statement about. -/
def service : Transition.System World Action Report := ⟨World.next⟩

/-- One step of the service. -/
abbrev Event := Transition.Event World Action Report

/-- A world some interleaving reaches from a service just built. -/
def World.Reachable (world : World) : Prop :=
  ∃ provider, service.Reachable (World.created provider) world

end Paraegox.Agent
