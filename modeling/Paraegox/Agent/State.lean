import Mathlib.Data.List.AList
import Paraegox.Agent.Provider
import Paraegox.Agent.Types
import Paraegox.Lib.Exec
import Paraegox.Runtime.Status

/-!
# The state behind the Agent lock

`AgentState` and every block the service runs while it holds the lock.  A block
is an `Exec`: what it wrote before an early return stays written, and a failed
`expect` or `debug_assert` is a panic, not an error.

The source keeps the cancellation flag of the active Turn in a watch channel.
Its receiver lives in the frame of `submit_turn` below the guard, so it outlives
the guard and `send` always finds it; the flag is a field here.
-/

namespace Paraegox.Agent

open Deck (CardDefinitionRef)
open Paraegox.Runtime (CardInstanceId)

def MAX_SESSIONS : Nat := 64
def MAX_RETAINED_TURNS_PER_SESSION : Nat := 32
def MAX_MODEL_CONTEXT_BYTES : Nat := 256 * 1024

def BUILTIN_AGENT_SYSTEM_PROMPT : String :=
  "You are Paraegox, a concise embodied-intelligence agent. Answer the user directly."

inductive ServiceLifecycle where
  | created
  | running
  | stopping
  | stopped
deriving DecidableEq, Repr

structure ActiveProfile where
  cardInstanceId : CardInstanceId
  systemPrompt : String
deriving DecidableEq, Repr

structure CompletedTurn where
  turnId : TurnId
  input : String
  terminal : TurnTerminal
deriving DecidableEq, Repr

structure SessionState where
  turns : List CompletedTurn := []
  pendingCancellations : List TurnId := []
deriving DecidableEq, Repr

structure ActiveTurn where
  sessionId : SessionId
  turnId : TurnId
  cancellation : Bool
deriving DecidableEq, Repr

/-- The session map. -/
abbrev Sessions := AList fun _ : SessionId => SessionState

structure AgentState where
  lifecycle : ServiceLifecycle
  activeProfile : Option ActiveProfile
  sessions : Sessions
  sessionOrder : List SessionId
  activeTurn : Option ActiveTurn

/-- What `AgentService::with_provider` puts behind the lock. -/
def AgentState.created : AgentState where
  lifecycle := .created
  activeProfile := none
  sessions := ∅
  sessionOrder := []
  activeTurn := none

/-- A block run under the lock. -/
abbrev Locked (α : Type) := Exec AgentState AgentError α

/-! ## Reading the state -/

/-- The first entry of the ledger for a Turn. -/
def SessionState.completed? (session : SessionState) (turnId : TurnId) : Option CompletedTurn :=
  session.turns.find? fun turn => turn.turnId = turnId

/-- The recorded entry of a Turn. -/
def AgentState.completed? (state : AgentState) (sessionId : SessionId) (turnId : TurnId) :
    Option CompletedTurn :=
  (state.sessions.lookup sessionId).bind fun session => session.completed? turnId

/-- The active Turn is this one. -/
def ActiveTurn.is (active : ActiveTurn) (sessionId : SessionId) (turnId : TurnId) : Bool :=
  active.sessionId = sessionId ∧ active.turnId = turnId

/-- `require_admission`. -/
def requireAdmission : Locked Unit := do
  let state ← get
  if state.lifecycle ≠ .running then Exec.fail ⟨"AgentService is not running"⟩
  else if state.activeProfile.isNone then Exec.fail ⟨"no Agent Card is active"⟩
  else pure ()

/-! ## Sessions and slots -/

/-- The eviction in `ensure_session`: the first session in insertion order that
does not own the active Turn leaves both the queue and the map. -/
def evictSession : Locked Unit := do
  let state ← get
  let owner := state.activeTurn.map ActiveTurn.sessionId
  match state.sessionOrder.findIdx? fun candidate => some candidate ≠ owner with
  | none => Exec.fail ⟨"no inactive Agent session can be evicted"⟩
  | some position =>
      let expired ← Exec.expect state.sessionOrder[position]?
        "the selected session order entry exists"
      set { state with
        sessionOrder := state.sessionOrder.eraseIdx position
        sessions := state.sessions.erase expired }

/-- The insertion at the end of `ensure_session`. -/
def insertSession (sessionId : SessionId) : Locked Unit :=
  modify fun state =>
    { state with
      sessions := state.sessions.insert sessionId {}
      sessionOrder := state.sessionOrder ++ [sessionId] }

/-- `ensure_session`. -/
def ensureSession (sessionId : SessionId) : Locked Unit := do
  let state ← get
  if sessionId ∈ state.sessions then pure ()
  else
    if state.sessions.keys.length = MAX_SESSIONS then
      evictSession
    insertSession sessionId

/-- `usize::from` of the reservation the active Turn holds in a session. -/
def AgentState.activeReservation (state : AgentState) (sessionId : SessionId) : Nat :=
  if state.activeTurn.any fun active => active.sessionId = sessionId then 1 else 0

/-- `ensure_turn_slot`. -/
def ensureTurnSlot (sessionId : SessionId) : Locked Unit := do
  let state ← get
  let session ← Exec.expect (state.sessions.lookup sessionId)
    "turn admission owns a bounded session"
  if MAX_RETAINED_TURNS_PER_SESSION ≤
      session.turns.length + session.pendingCancellations.length +
        state.activeReservation sessionId then
    Exec.fail ⟨"Agent session terminal capacity is full; create a new Session"⟩
  else pure ()

/-- `record_completed_turn`, on the session `session` of the map. -/
def recordCompletedTurn (sessionId : SessionId) (session : SessionState) (turnId : TurnId)
    (input : String) (terminal : TurnTerminal) : Locked Unit := do
  Exec.assert (session.turns.length < MAX_RETAINED_TURNS_PER_SESSION)
    "assertion failed: session.turns.len() < MAX_RETAINED_TURNS_PER_SESSION"
  modify fun state =>
    { state with
      sessions := state.sessions.insert sessionId
        { session with turns := session.turns ++ [⟨turnId, input, terminal⟩] } }

/-! ## The model context -/

/-- `usize::checked_add`. -/
def checkedAdd (a b : Nat) : Option Nat := if a + b < 2 ^ 64 then some (a + b) else none

/-- `push_context_message`: the messages so far and their byte count. -/
def pushContextMessage (role : ModelRole) (content : String)
    (acc : List ModelMessage × Nat) : Except TurnFailure (List ModelMessage × Nat) :=
  match (checkedAdd acc.2 content.utf8ByteSize).filter fun total =>
      total ≤ MAX_MODEL_CONTEXT_BYTES with
  | none => .error .contextLimit
  | some total => .ok (acc.1 ++ [⟨role, content⟩], total)

/-- The loop of `build_model_context` over the ledger. -/
def pushHistory : List CompletedTurn → List ModelMessage × Nat →
    Except TurnFailure (List ModelMessage × Nat)
  | [], acc => .ok acc
  | turn :: turns, acc =>
      match turn.terminal with
      | .final content => do
          let acc ← pushContextMessage .user turn.input acc
          let acc ← pushContextMessage .assistant content acc
          pushHistory turns acc
      | _ => pushHistory turns acc

/-- `build_model_context`. -/
def buildModelContext (systemPrompt : String) (session : SessionState) (currentInput : String) :
    Except TurnFailure ModelContext := do
  let acc ← pushContextMessage .system systemPrompt ([], 0)
  let acc ← pushHistory session.turns acc
  let acc ← pushContextMessage .user currentInput acc
  pure ⟨acc.1⟩

/-! ## Admission -/

/-- What the locked block of `submit_turn` decides. -/
inductive Admission where
  /-- The Turn already has its terminal, which is the answer. -/
  | settled (terminal : TurnTerminal)
  /-- The Turn is now active and its context goes to the provider. -/
  | admitted (context : ModelContext)
deriving DecidableEq, Repr

/-- A recorded Turn is replayed when the input is the same. -/
def replayTurn (completed : CompletedTurn) (input : String) : Locked Admission :=
  if completed.input ≠ input then
    Exec.fail ⟨"TurnId was already completed with different input"⟩
  else pure (.settled completed.terminal)

/-- A tombstone at `position` is consumed: the Turn ends `Cancelled`. -/
def consumeCancellation (sessionId : SessionId) (session : SessionState) (position : Nat)
    (turnId : TurnId) (input : String) : Locked Admission := do
  let session :=
    { session with pendingCancellations := session.pendingCancellations.eraseIdx position }
  modify fun state => { state with sessions := state.sessions.insert sessionId session }
  recordCompletedTurn sessionId session turnId input .cancelled
  pure (.settled .cancelled)

/-- The rest of admission: the Turn is neither recorded nor tombstoned. -/
def admitTurn (sessionId : SessionId) (turnId : TurnId) (input : String) : Locked Admission := do
  if (← get).activeTurn.isSome then Exec.fail ⟨"AgentService is busy with another turn"⟩
  else
    ensureSession sessionId
    ensureTurnSlot sessionId
    let state ← get
    let profile ← Exec.expect state.activeProfile "turn admission requires an active profile"
    let session ← Exec.expect (state.sessions.lookup sessionId)
      "turn admission owns a bounded session"
    match buildModelContext profile.systemPrompt session input with
    | .error reason =>
        recordCompletedTurn sessionId session turnId input (.failed reason)
        pure (.settled (.failed reason))
    | .ok context =>
        set { state with activeTurn := some ⟨sessionId, turnId, false⟩ }
        pure (.admitted context)

/-- A session and the place in it where a Turn is tombstoned. -/
def AgentState.tombstone? (state : AgentState) (sessionId : SessionId) (turnId : TurnId) :
    Option (SessionState × Nat) :=
  (state.sessions.lookup sessionId).bind fun session =>
    (session.pendingCancellations.findIdx? fun pending => pending = turnId).map (session, ·)

/-- The locked block of `AgentHandle::submit_turn`. -/
def submitTurn (sessionId : SessionId) (turnId : TurnId) (input : String) : Locked Admission := do
  requireAdmission
  let state ← get
  match state.completed? sessionId turnId with
  | some completed => replayTurn completed input
  | none =>
      match state.tombstone? sessionId turnId with
      | some (session, position) =>
          consumeCancellation sessionId session position turnId input
      | none => admitTurn sessionId turnId input

/-! ## Cancellation -/

/-- `cancel_active_turn`. -/
def AgentState.cancelActiveTurn (state : AgentState) : AgentState :=
  { state with
    activeTurn := state.activeTurn.map fun active => { active with cancellation := true } }

/-- The end of `AgentHandle::cancel`: a Turn that is neither recorded nor active
leaves a tombstone. -/
def placeCancellation (sessionId : SessionId) (turnId : TurnId) : Locked CancelResult := do
  ensureSession sessionId
  let session ← Exec.expect ((← get).sessions.lookup sessionId)
    "a cancellation owns a bounded session"
  if turnId ∈ session.pendingCancellations then pure .cancellationRequested
  else
    ensureTurnSlot sessionId
    let session ← Exec.expect ((← get).sessions.lookup sessionId)
      "a cancellation owns a bounded session"
    modify fun state =>
      { state with
        sessions := state.sessions.insert sessionId
          { session with pendingCancellations := session.pendingCancellations ++ [turnId] } }
    pure .cancellationRequested

/-- The locked block of `AgentHandle::cancel`. -/
def cancel (sessionId : SessionId) (turnId : TurnId) : Locked CancelResult := do
  let state ← get
  match state.completed? sessionId turnId with
  | some completed => pure (.alreadyTerminal completed.terminal)
  | none =>
      if state.activeTurn.any fun active => active.is sessionId turnId then
        set state.cancelActiveTurn
        pure .cancellationRequested
      else if state.lifecycle ≠ .running ∨ state.activeProfile.isNone then pure .notActive
      else placeCancellation sessionId turnId

/-! ## The guard of the active Turn -/

/-- `ActiveTurnGuard`, less its handle to the lock and its `armed` flag: the
flag is the phase of the `submit_turn` frame the guard lives in. -/
structure ActiveTurnGuard where
  sessionId : SessionId
  turnId : TurnId
  input : String
deriving DecidableEq, Repr

/-- The locked block of `ActiveTurnGuard::complete`. -/
def ActiveTurnGuard.complete (guard : ActiveTurnGuard) (proposed : TurnTerminal) :
    Locked TurnTerminal := do
  let state ← get
  match state.activeTurn with
  | none => Exec.fail ⟨"AgentService lost ownership of the active turn"⟩
  | some active =>
      if ¬ active.is guard.sessionId guard.turnId then
        Exec.fail ⟨"AgentService active turn identity changed unexpectedly"⟩
      else
        let terminal :=
          if active.cancellation ∨ state.lifecycle ≠ .running ∨ state.activeProfile.isNone
          then .cancelled else proposed
        set { state with activeTurn := none }
        let session ← Exec.expect (state.sessions.lookup guard.sessionId)
          "an admitted turn always owns a session"
        recordCompletedTurn guard.sessionId session guard.turnId guard.input terminal
        pure terminal

/-- The locked block of the guard's `Drop`: whether it cleared the active Turn. -/
def ActiveTurnGuard.drop (guard : ActiveTurnGuard) : Locked Bool := do
  let state ← get
  if state.activeTurn.any fun active => active.is guard.sessionId guard.turnId then
    set { state with activeTurn := none }
    match state.sessions.lookup guard.sessionId with
    | none => pure ()
    | some session =>
        recordCompletedTurn guard.sessionId session guard.turnId guard.input .cancelled
    pure true
  else pure false

/-! ## Profile and lifecycle -/

/-- The locked block of `AgentHandle::activate_profile`. -/
def activateProfile (cardInstanceId : CardInstanceId) (systemPrompt : String) : Locked Unit := do
  let state ← get
  if state.lifecycle ≠ .running then Exec.fail ⟨"AgentService is not running"⟩
  else if state.activeProfile.isSome then Exec.fail ⟨"an Agent profile is already active"⟩
  else set { state with activeProfile := some ⟨cardInstanceId, systemPrompt⟩ }

/-- The locked block of `AgentHandle::deactivate_profile`: whether it goes on to
wait until the service is idle. -/
def deactivateProfile (cardInstanceId : CardInstanceId) : Locked Bool := do
  let state ← get
  match state.activeProfile with
  | some active =>
      if active.cardInstanceId = cardInstanceId then
        set ({ state with activeProfile := none } : AgentState).cancelActiveTurn
        pure true
      else Exec.fail ⟨"another Agent Card owns the active profile"⟩
  | none => pure false

/-- The locked block of `AgentService::start`. -/
def start : Locked Unit := do
  let state ← get
  if state.lifecycle ≠ .created then Exec.fail ⟨"AgentService can only start from Created"⟩
  else set { state with lifecycle := .running }

/-- The first locked block of `AgentService::stop_inner`: whether it goes on to
wait until the service is idle. -/
def beginStop : Locked Bool := do
  let state ← get
  match state.lifecycle with
  | .created =>
      set { state with lifecycle := .stopped }
      pure false
  | .stopped => pure false
  | .running | .stopping =>
      set ({ state with lifecycle := .stopping, activeProfile := none } :
        AgentState).cancelActiveTurn
      pure true

/-- The last locked block of `stop_inner`. -/
def AgentState.finishStop (state : AgentState) : AgentState :=
  { state with lifecycle := .stopped }

/-- `Drop` of `AgentService`. -/
def AgentState.dropService (state : AgentState) : AgentState :=
  ({ state with activeProfile := none, lifecycle := .stopped } : AgentState).cancelActiveTurn

end Paraegox.Agent
