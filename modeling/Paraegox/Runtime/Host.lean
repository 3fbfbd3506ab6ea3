import Paraegox.Lib.Exec
import Paraegox.Runtime.Deck

/-!
# RuntimeHost

`start` and `stop` run against a `Console`: the status snapshot behind its lock
and the trace of everything the host did, which owner it called and each snapshot
a reader could have seen.  Both calls are modelled run to completion; a reader in
between sees one of the published snapshots.
-/

namespace Paraegox.Runtime

open Deck (CardKey)

def MAX_CORE_SERVICES : Nat := 16

/-- `OWNER_LIFECYCLE_TIMEOUT`, in nanoseconds. -/
def OWNER_LIFECYCLE_TIMEOUT : Nat := 10 * 1000000000

def FIRST_GENERATION : UInt64 := 1

/-! ## Owners and their failures -/

/-- A CoreService, by how its start and its stop end. -/
structure CoreService where
  start : Completion
  stop : Completion
deriving DecidableEq, Repr

inductive LifecycleOwner where
  | coreService (index : Nat)
  | card (key : CardKey)
deriving DecidableEq, Repr

inductive LifecycleAction where
  | start
  | stop
deriving DecidableEq, Repr

inductive LifecycleFailureKind where
  | timedOut (deadline : Nat)
  | owner (source : BoxError)
deriving DecidableEq, Repr

structure LifecycleFailure where
  owner : LifecycleOwner
  action : LifecycleAction
  kind : LifecycleFailureKind
deriving DecidableEq, Repr

def LifecycleFailure.isTimeout (failure : LifecycleFailure) : Bool :=
  match failure.kind with
  | .timedOut _ => true
  | .owner _ => false

inductive RuntimeHostError where
  | invalidTransition (action : String) (actual : RuntimeHostState)
  | startFailed (failure : LifecycleFailure) (cleanupFailures : List LifecycleFailure)
  | stopFailed (failures : List LifecycleFailure)
deriving DecidableEq, Repr

/-! ## The console -/

/-- One call of an owner's future, and how it ended.  A Card is started with its
context. -/
structure Invocation where
  owner : LifecycleOwner
  action : LifecycleAction
  context : Option CardContext
  completion : Completion
deriving DecidableEq, Repr

inductive HostEvent where
  | invoked (invocation : Invocation)
  | published (snapshot : RuntimeHostSnapshot)
deriving DecidableEq

structure Console where
  snapshot : RuntimeHostSnapshot
  trace : List HostEvent

/-- A block of the host. -/
abbrev Hosted (α : Type) := Exec Console RuntimeHostError α

/-- Write the snapshot under its lock. -/
def publish (write : RuntimeHostSnapshot → RuntimeHostSnapshot) : Hosted Unit :=
  modify fun console =>
    { snapshot := write console.snapshot
      trace := console.trace ++ [.published (write console.snapshot)] }

def setState (state : RuntimeHostState) : Hosted Unit :=
  publish fun snapshot => snapshot.setRuntimeHostState state

def setDeckRunState (state : DeckRunState) : Hosted Unit :=
  publish fun snapshot => snapshot.setDeckRunState state

def setCardState (index : Nat) (state : CardInstanceState) : Hosted Unit :=
  publish fun snapshot => snapshot.setCardState index state

/-- `invoke_owner`, on a future that ends so. -/
def invokeOwner (owner : LifecycleOwner) (action : LifecycleAction) (deadline : Nat)
    (context : Option CardContext) (completion : Completion) :
    Hosted (Except LifecycleFailure Unit) := do
  modify fun console =>
    { console with trace := console.trace ++ [.invoked ⟨owner, action, context, completion⟩] }
  match completion with
  | .ok => pure (.ok ())
  | .failed source => pure (.error ⟨owner, action, .owner source⟩)
  | .elapsed => pure (.error ⟨owner, action, .timedOut deadline⟩)

/-! ## The host -/

structure RuntimeHost where
  coreServices : List CoreService
  deck : Option DeckOwner
  lifecycleTimeout : Nat

inductive RuntimeHostBuildError where
  | tooManyCoreServices (actual maximum : Nat)
deriving DecidableEq, Repr

/-- The snapshots of the Cards of a lock, with the identifiers they were given. -/
def cardSnapshots (cards : List Deck.ResolvedCard) (cardInstanceIds : List CardInstanceId) :
    List CardInstanceSnapshot :=
  List.zipWith (fun card cardInstanceId =>
    ⟨cardInstanceId, card.key, card.definition, FIRST_GENERATION, .created⟩) cards cardInstanceIds

/-- `RuntimeHost::build`.  The identifiers it draws are arguments. -/
def RuntimeHost.build (identity : RuntimeHostIdentity) (coreServices : List CoreService)
    (deckLaunch : Option DeckLaunch) (deckRunId : DeckRunId) (freshId : Nat → CardInstanceId) :
    Except RuntimeHostBuildError (RuntimeHost × Console) :=
  if coreServices.length > MAX_CORE_SERVICES then
    .error (.tooManyCoreServices coreServices.length MAX_CORE_SERVICES)
  else
    match deckLaunch with
    | none =>
        .ok (⟨coreServices, none, OWNER_LIFECYCLE_TIMEOUT⟩, ⟨⟨identity, .created, none⟩, []⟩)
    | some launch =>
        let cardInstanceIds := (List.range launch.lock.cards.length).map freshId
        .ok (⟨coreServices, some ⟨launch, cardInstanceIds, by simp [cardInstanceIds]⟩,
            OWNER_LIFECYCLE_TIMEOUT⟩,
          ⟨⟨identity, .created, some ⟨deckRunId, launch.lock.key, launch.lock.digest,
            FIRST_GENERATION, .created, cardSnapshots launch.lock.cards cardInstanceIds⟩⟩, []⟩)

/-- `require_state`. -/
def requireState (action : String) (expected : RuntimeHostState) : Hosted Unit := do
  let actual := (← get).snapshot.state
  if actual = expected then pure () else Exec.fail (.invalidTransition action actual)

/-- The failure a call ended with, as a list. -/
def failureOf : Except LifecycleFailure Unit → List LifecycleFailure
  | .ok () => []
  | .error failure => [failure]

/-- The loop of `stop_started_services` over the services still to stop. -/
def stopServices (deadline : Nat) : List (CoreService × Nat) → Hosted (List LifecycleFailure)
  | [] => pure []
  | (service, index) :: rest => do
      let result ← invokeOwner (.coreService index) .stop deadline none service.stop
      let failures ← stopServices deadline rest
      pure (failureOf result ++ failures)

/-- `stop_started_services`: the first `started` services, last first. -/
def RuntimeHost.stopStartedServices (host : RuntimeHost) (started : Nat) :
    Hosted (List LifecycleFailure) :=
  stopServices host.lifecycleTimeout (host.coreServices.zipIdx.take started).reverse

/-- Stop one Card between its two status writes. -/
def stopCard (deadline : Nat) (slot : CardSlot) : Hosted (Except LifecycleFailure Unit) := do
  setCardState slot.index .stopping
  let result ← invokeOwner (.card slot.card.key) .stop deadline none slot.implementation.stop
  match result with
  | .ok () => setCardState slot.index .stopped
  | .error _ => setCardState slot.index .failed
  pure result

/-- The loop of `stop_started_cards` over the Cards still to stop. -/
def stopCards (deadline : Nat) : List CardSlot → Hosted (List LifecycleFailure)
  | [] => pure []
  | slot :: rest => do
      let result ← stopCard deadline slot
      let failures ← stopCards deadline rest
      pure (failureOf result ++ failures)

/-- `stop_started_cards`: the first `started` Cards, last first. -/
def stopStartedCards (deadline : Nat) (deck : DeckOwner) (started : Nat) :
    Hosted (List LifecycleFailure) :=
  stopCards deadline (deck.slots.take started).reverse

/-- An owner whose start timed out is stopped; one whose start failed is not. -/
def stopInterrupted (failure : LifecycleFailure) (stop : Hosted (Except LifecycleFailure Unit)) :
    Hosted (List LifecycleFailure) :=
  if failure.isTimeout then failureOf <$> stop else pure []

/-- The service loop of `start`, with `started` services behind it. -/
def RuntimeHost.startServices (host : RuntimeHost) (started : Nat) :
    List (CoreService × Nat) → Hosted Nat
  | [] => pure started
  | (service, index) :: rest => do
      let result ←
        invokeOwner (.coreService index) .start host.lifecycleTimeout none service.start
      match result with
      | .ok () => host.startServices (started + 1) rest
      | .error failure =>
          let interrupted ← stopInterrupted failure
            (invokeOwner (.coreService index) .stop host.lifecycleTimeout none service.stop)
          let cleanupFailures ← host.stopStartedServices started
          setDeckRunState .failed
          setState .failed
          Exec.fail (.startFailed failure (interrupted ++ cleanupFailures))

/-- The Card loop of `start`, with `started` Cards behind it: the failure that
ended it, with the failures of its cleanup. -/
def RuntimeHost.startCards (host : RuntimeHost) (deck : DeckOwner) (started : Nat) :
    List CardSlot → Hosted (Option (LifecycleFailure × List LifecycleFailure))
  | [] => pure none
  | slot :: rest => do
      setCardState slot.index .starting
      let result ← invokeOwner (.card slot.card.key) .start host.lifecycleTimeout
        (some slot.context) (slot.implementation.start slot.context)
      match result with
      | .ok () =>
          setCardState slot.index .ready
          host.startCards deck (started + 1) rest
      | .error failure =>
          setCardState slot.index .failed
          let interrupted ← stopInterrupted failure (stopCard host.lifecycleTimeout slot)
          let cleanupFailures ← stopStartedCards host.lifecycleTimeout deck started
          setDeckRunState .failed
          pure (some (failure, interrupted ++ cleanupFailures))

/-- The Deck part of `start`. -/
def RuntimeHost.startDeck (host : RuntimeHost) :
    Hosted (Option (LifecycleFailure × List LifecycleFailure)) :=
  match host.deck with
  | none => pure none
  | some deck => do
      setDeckRunState .starting
      let deckStartFailure ← host.startCards deck 0 deck.slots
      if deckStartFailure.isNone then setDeckRunState .ready
      pure deckStartFailure

/-- `RuntimeHost::start`. -/
def RuntimeHost.start (host : RuntimeHost) : Hosted Unit := do
  requireState "start" .created
  setState .starting
  let started ← host.startServices 0 host.coreServices.zipIdx
  match ← host.startDeck with
  | some (failure, cleanupFailures) =>
      let serviceFailures ← host.stopStartedServices started
      setState .failed
      Exec.fail (.startFailed failure (cleanupFailures ++ serviceFailures))
  | none => setState .ready

/-- The Deck part of `stop`. -/
def RuntimeHost.stopDeck (host : RuntimeHost) : Hosted (List LifecycleFailure) :=
  match host.deck with
  | none => pure []
  | some deck => do
      setDeckRunState .stopping
      let failures ←
        stopStartedCards host.lifecycleTimeout deck deck.implementations.length
      setDeckRunState (if failures.isEmpty then .stopped else .failed)
      pure failures

/-- `RuntimeHost::stop`. -/
def RuntimeHost.stop (host : RuntimeHost) : Hosted Unit := do
  requireState "stop" .ready
  setState .stopping
  let cardFailures ← host.stopDeck
  let serviceFailures ← host.stopStartedServices host.coreServices.length
  if (cardFailures ++ serviceFailures).isEmpty then setState .stopped
  else
    setState .failed
    Exec.fail (.stopFailed (cardFailures ++ serviceFailures))

/-! ## Runs -/

/-- What is called on a host. -/
inductive HostCall where
  | start
  | stop
deriving DecidableEq, Repr

def RuntimeHost.perform (host : RuntimeHost) : HostCall → Hosted Unit
  | .start => host.start
  | .stop => host.stop

/-- The console after a call, however it ended. -/
def Console.after {α : Type} (console : Console) (block : Hosted α) : Console :=
  match EStateM.run block console with
  | .ok _ console' => console'
  | .error _ console' => console'

/-- The console after some calls, each run to completion. -/
def RuntimeHost.performAll (host : RuntimeHost) (console : Console) (calls : List HostCall) :
    Console :=
  calls.foldl (fun console call => console.after (host.perform call)) console

end Paraegox.Runtime
