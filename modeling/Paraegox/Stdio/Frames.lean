import Paraegox.Agent.Client
import Paraegox.Text.Truncate

/-!
# The frames of the stdio protocol

One JSON object a line in each direction.  What a line decodes to is an
`InputFrame`; an `OutputFrame` is encoded to a line of at most 64 KiB.
-/

namespace Paraegox.Stdio

open Agent (AgentError CancelResult SessionId TurnId TurnResult TurnTerminal)

def PROTOCOL_VERSION : UInt8 := 1
def MAX_INPUT_BYTES : Nat := 4 * 1024
def MAX_OUTPUT_FRAME_BYTES : Nat := 64 * 1024
def MAX_ERROR_BYTES : Nat := 512

inductive ErrorKind where
  | invalidData
  | invalidInput
  | timedOut
  | other
deriving DecidableEq, Repr

/-- An `io::Error`. -/
structure IoError where
  kind : ErrorKind
  message : String
deriving DecidableEq, Repr

/-- The errors an adapter's `Box<dyn Error>` holds. -/
inductive AdapterError where
  | io (error : IoError)
  | agent (error : AgentError)
deriving DecidableEq, Repr

inductive InputFrame where
  | submit (v : UInt8) (sessionId : SessionId) (turnId : TurnId) (input : String)
  | cancel (v : UInt8) (sessionId : SessionId) (turnId : TurnId)
  | shutdown (v : UInt8) (sessionId : SessionId)
deriving DecidableEq, Repr

inductive CancelStatus where
  | cancellationRequested
  | alreadyTerminal
  | notActive
deriving DecidableEq, Repr

inductive OutputFrame where
  | ready (v : UInt8) (sessionId : SessionId) (turnTimeoutMs maxInputBytes : Nat)
  | cancelResult (v : UInt8) (sessionId : SessionId) (turnId : TurnId) (result : CancelStatus)
  | turnTerminal (v : UInt8) (result : TurnResult)
  | turnError (v : UInt8) (sessionId : SessionId) (turnId : TurnId) (message : String)
  | stopped (v : UInt8) (sessionId : SessionId)
deriving DecidableEq, Repr

/-! ## JSON layout -/

def CancelStatus.toJson : CancelStatus → Json
  | .cancellationRequested => .str "cancellation_requested"
  | .alreadyTerminal => .str "already_terminal"
  | .notActive => .str "not_active"

def OutputFrame.toJson : OutputFrame → Json
  | .ready v sessionId turnTimeoutMs maxInputBytes =>
      .obj [("type", .str "ready"), ("v", .num v.toNat), ("session_id", sessionId.toJson),
        ("turn_timeout_ms", .num turnTimeoutMs), ("max_input_bytes", .num maxInputBytes)]
  | .cancelResult v sessionId turnId result =>
      .obj [("type", .str "cancel_result"), ("v", .num v.toNat), ("session_id", sessionId.toJson),
        ("turn_id", turnId.toJson), ("result", result.toJson)]
  | .turnTerminal v result =>
      .obj [("type", .str "turn_terminal"), ("v", .num v.toNat), ("result", result.toJson)]
  | .turnError v sessionId turnId message =>
      .obj [("type", .str "turn_error"), ("v", .num v.toNat), ("session_id", sessionId.toJson),
        ("turn_id", turnId.toJson), ("message", .str message)]
  | .stopped v sessionId =>
      .obj [("type", .str "stopped"), ("v", .num v.toNat), ("session_id", sessionId.toJson)]

/-! ## Checks and conversions -/

def InputFrame.version : InputFrame → UInt8
  | .submit v _ _ _ => v
  | .cancel v _ _ => v
  | .shutdown v _ => v

/-- `InputFrame::ensure_version`. -/
def InputFrame.ensureVersion (command : InputFrame) : Except IoError Unit :=
  if command.version = PROTOCOL_VERSION then .ok ()
  else .error ⟨.invalidData, "unsupported JSONL protocol version"⟩

def ensureSession (expected actual : SessionId) : Except IoError Unit :=
  if expected = actual then .ok ()
  else .error ⟨.invalidData, "JSONL command does not match this session"⟩

def cancelStatus : CancelResult → CancelStatus × Option TurnTerminal
  | .cancellationRequested => (.cancellationRequested, none)
  | .alreadyTerminal terminal => (.alreadyTerminal, some terminal)
  | .notActive => (.notActive, none)

def durationMillis (duration : Agent.Duration) : Except IoError Nat :=
  if duration / 1000000 < 2 ^ 64 then .ok (duration / 1000000)
  else .error ⟨.invalidInput, "turn timeout is too large"⟩

def safeMessage (error : AgentError) : String := truncateUtf8 error.message MAX_ERROR_BYTES

/-- `JsonlOutput::send`, where the bounded write of the line ends so. -/
def JsonlOutput.send (frame : OutputFrame) (write : Except IoError Unit) : Except IoError Unit :=
  if MAX_OUTPUT_FRAME_BYTES < frame.toJson.encodedLen then
    .error ⟨.invalidData, "JSONL response exceeds 64 KiB"⟩
  else write

theorem safeMessage_le (error : AgentError) :
    (safeMessage error).utf8ByteSize ≤ MAX_ERROR_BYTES :=
  truncateUtf8_le _ _

end Paraegox.Stdio
