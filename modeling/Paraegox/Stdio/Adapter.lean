import Paraegox.Lib.Dialogue
import Paraegox.Stdio.Frames

/-!
# The stdio adapter

`run_textual_stdio` as a machine.  It stops wherever the source awaits: for the
next command, for the Agent, for a line to be written.  Its points are the heads
of the two loops, in `run_protocol` and in `drive_turn`, with what is left of
`run_textual_stdio` before and after them.  The pinned submission is polled
together with the input in `select!`, and alone after a shutdown.
-/

namespace Paraegox.Stdio

open Agent (AgentConversationClient AgentError Duration Reply SessionId TurnId TurnResult)

/-- What `next_command` returns. -/
abbrev Command := Except IoError (Option InputFrame)

/-- The branch a `select!` takes. -/
inductive Selected where
  | submission (reply : Reply)
  | command (command : Command)

/-- What the adapter awaits. -/
inductive Request where
  /-- `reader.next_command()` in `run_protocol`. -/
  | nextCommand
  /-- The `select!` of `drive_turn`. -/
  | select (turnId : TurnId)
  /-- `client.cancel(..)`. -/
  | cancel (turnId : TurnId)
  /-- `timeout(CONTROL_TIMEOUT, submission)`; no answer is the timeout. -/
  | submission (turnId : TurnId)
  /-- The write of an encoded line. -/
  | write (frame : OutputFrame)
  /-- `client.close(..)`. -/
  | close
deriving DecidableEq

def Request.Answer : Request → Type
  | .nextCommand => Command
  | .select _ => Selected
  | .cancel _ => Reply
  | .submission _ => Option Reply
  | .write _ => Except IoError Unit
  | .close => Except AgentError Unit

/-- A block of the adapter. -/
abbrev Block (α : Type) := ExceptT AdapterError (Dialogue Request Request.Answer) α

/-- Await something. -/
def await (request : Request) : Block (Request.Answer request) := liftM (Dialogue.request request)

/-- The `?` of an I/O result. -/
def io {α : Type} : Except IoError α → Block α
  | .ok a => pure a
  | .error error => throw (.io error)

def send (frame : OutputFrame) : Block Unit := do
  let write ← await (.write frame)
  io (JsonlOutput.send frame write)

inductive ProtocolOutcome where
  | graceful
  | fatal
deriving DecidableEq, Repr

inductive ActiveOutcome where
  | continue
  | gracefulShutdown
  | fatal
deriving DecidableEq, Repr

/-- What `run_textual_stdio` is started with. -/
structure Adapter where
  sessionId : SessionId
  turnTimeout : Duration
deriving DecidableEq, Repr

namespace Adapter

variable (adapter : Adapter)

def client : AgentConversationClient := ⟨adapter.sessionId⟩

/-! ## The Turn that is driven -/

/-- `finish_active_shutdown`. -/
def finishActiveShutdown (turnId : TurnId) (input : String) : Block ActiveOutcome := do
  let reply ← await (.cancel turnId)
  match adapter.client.cancel turnId reply with
  | .error error =>
      send (.turnError PROTOCOL_VERSION adapter.sessionId turnId (safeMessage error))
      pure .fatal
  | .ok result =>
      send (.cancelResult PROTOCOL_VERSION adapter.sessionId turnId (cancelStatus result).1)
      match (cancelStatus result).2 with
      | some terminal =>
          send (.turnTerminal PROTOCOL_VERSION ⟨adapter.sessionId, turnId, terminal⟩)
          pure .gracefulShutdown
      | none =>
          let confirmed ← await (.submission turnId)
          match confirmed.map (adapter.client.submitTurn turnId input adapter.turnTimeout) with
          | some (.ok result) =>
              send (.turnTerminal PROTOCOL_VERSION result)
              pure .gracefulShutdown
          | some (.error error) =>
              send (.turnError PROTOCOL_VERSION adapter.sessionId turnId (safeMessage error))
              pure .fatal
          | none =>
              send (.turnError PROTOCOL_VERSION adapter.sessionId turnId
                "Agent terminal was not confirmed before shutdown")
              pure .fatal

/-- `fail_active_protocol`.  Whatever the shutdown ends with is dropped. -/
def failActiveProtocol {α : Type} (turnId : TurnId) (input : String) (protocolError : IoError) :
    Block α := do
  let _ ← Dialogue.attempt (adapter.finishActiveShutdown turnId input)
  throw (.io protocolError)

/-- The submission's branch of `drive_turn`. -/
def endTurn (turnId : TurnId) (input : String) (reply : Reply) : Block ActiveOutcome := do
  match adapter.client.submitTurn turnId input adapter.turnTimeout reply with
  | .ok result =>
      send (.turnTerminal PROTOCOL_VERSION result)
      pure .continue
  | .error error =>
      send (.turnError PROTOCOL_VERSION adapter.sessionId turnId (safeMessage error))
      pure .fatal

/-- The cancel of the driven Turn in `drive_turn`. -/
def cancelTurn (turnId : TurnId) : Block (Option ActiveOutcome) := do
  let reply ← await (.cancel turnId)
  match adapter.client.cancel turnId reply with
  | .ok result =>
      send (.cancelResult PROTOCOL_VERSION adapter.sessionId turnId (cancelStatus result).1)
      match (cancelStatus result).2 with
      | some terminal =>
          send (.turnTerminal PROTOCOL_VERSION ⟨adapter.sessionId, turnId, terminal⟩)
          pure (some .continue)
      | none => pure none
  | .error error =>
      send (.turnError PROTOCOL_VERSION adapter.sessionId turnId (safeMessage error))
      pure (some .fatal)

/-- A command of the right version that arrives while a Turn is driven. -/
def activeCommand (turnId : TurnId) (input : String) : InputFrame → Block (Option ActiveOutcome)
  | .cancel _ requestedSession requestedTurn =>
      match ensureSession adapter.sessionId requestedSession with
      | .error error => adapter.failActiveProtocol turnId input error
      | .ok () =>
          if requestedTurn ≠ turnId then do
            send (.cancelResult PROTOCOL_VERSION adapter.sessionId requestedTurn .notActive)
            pure none
          else adapter.cancelTurn turnId
  | .submit _ submittedSession submittedTurn _ =>
      match ensureSession adapter.sessionId submittedSession with
      | .error error => adapter.failActiveProtocol turnId input error
      | .ok () => do
          send (.turnError PROTOCOL_VERSION adapter.sessionId submittedTurn
            "another turn is already active")
          let _ ← adapter.finishActiveShutdown turnId input
          pure (some .fatal)
  | .shutdown _ requestedSession =>
      match ensureSession adapter.sessionId requestedSession with
      | .error error => adapter.failActiveProtocol turnId input error
      | .ok () => some <$> adapter.finishActiveShutdown turnId input

/-- The loop body of `drive_turn`; without an outcome the loop goes on. -/
def driveTurn (turnId : TurnId) (input : String) : Block (Option ActiveOutcome) := do
  let selected ← await (.select turnId)
  match selected with
  | .submission reply => some <$> adapter.endTurn turnId input reply
  | .command (.ok none) => some <$> adapter.finishActiveShutdown turnId input
  | .command (.error error) => adapter.failActiveProtocol turnId input error
  | .command (.ok (some command)) =>
      match command.ensureVersion with
      | .error error => adapter.failActiveProtocol turnId input error
      | .ok () => adapter.activeCommand turnId input command

/-! ## The protocol -/

/-- The heads of the loops, and what is before and after them. -/
inductive Point where
  /-- `run_textual_stdio` before `run_protocol`. -/
  | opening
  /-- The loop of `run_protocol`. -/
  | protocol
  /-- The loop of `drive_turn`. -/
  | driving (turnId : TurnId) (input : String)
  /-- `run_protocol` has returned. -/
  | closing (result : Except AdapterError ProtocolOutcome)
  /-- `run_textual_stdio` has returned. -/
  | exited (result : Except AdapterError Unit)
deriving DecidableEq

/-- Where `run_protocol` goes on after `drive_turn`. -/
def ActiveOutcome.point : ActiveOutcome → Point
  | .continue => .protocol
  | .gracefulShutdown => .closing (.ok .graceful)
  | .fatal => .closing (.ok .fatal)

/-- The loop body of `run_protocol`. -/
def runProtocol : Block Point := do
  let command ← await .nextCommand
  match ← io command with
  | none => pure (.closing (.ok .graceful))
  | some command =>
      io command.ensureVersion
      match command with
      | .submit _ submittedSession turnId input =>
          io (ensureSession adapter.sessionId submittedSession)
          pure (.driving turnId input)
      | .cancel _ requestedSession turnId =>
          io (ensureSession adapter.sessionId requestedSession)
          send (.cancelResult PROTOCOL_VERSION adapter.sessionId turnId .notActive)
          pure .protocol
      | .shutdown _ requestedSession =>
          io (ensureSession adapter.sessionId requestedSession)
          pure (.closing (.ok .graceful))

/-- `run_textual_stdio` up to `run_protocol`.  A frame that cannot be built returns
at once, and one that cannot be sent closes the client first. -/
def openConversation : Block Point := do
  let turnTimeoutMs ← io (durationMillis adapter.turnTimeout)
  match ← Dialogue.attempt
      (send (.ready PROTOCOL_VERSION adapter.sessionId turnTimeoutMs MAX_INPUT_BYTES)) with
  | .ok () => pure .protocol
  | .error error =>
      let _ ← await .close
      throw error

/-- `run_textual_stdio` from `run_protocol` on. -/
def closeConversation (protocolResult : Except AdapterError ProtocolOutcome) : Block Unit := do
  let closeResult ← await .close
  match protocolResult, closeResult with
  | .ok .graceful, .ok () => send (.stopped PROTOCOL_VERSION adapter.sessionId)
  | .ok .fatal, .ok () =>
      throw (.io ⟨.other, "JSONL conversation stopped after a fatal turn error"⟩)
  | .error error, _ => throw error
  | .ok _, .error error => throw (.agent error)

/-- The point a block ends in, where an error ends in `onError`. -/
def pointOf (onError : AdapterError → Point) : Except AdapterError Point → Point
  | .ok point => point
  | .error error => onError error

/-- `run_textual_stdio`. -/
def runTextualStdio : Machine Request Request.Answer Point where
  resume
    | .opening => pointOf (fun error => .exited (.error error)) <$> (adapter.openConversation).run
    | .protocol => pointOf (fun error => .closing (.error error)) <$> (adapter.runProtocol).run
    | .driving turnId input =>
        pointOf (fun error => .closing (.error error)) <$>
          ((fun outcome => (outcome.map ActiveOutcome.point).getD (.driving turnId input)) <$>
            adapter.driveTurn turnId input : Block Point).run
    | .closing result => Point.exited <$> (adapter.closeConversation result).run
    | .exited result => .pure (.exited result)

end Adapter

end Paraegox.Stdio
