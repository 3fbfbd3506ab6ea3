import Paraegox.Stdio.Frames
import Paraegox.Textual.Validation

/-!
# The backend of the Textual client

`JsonlBackend` after its start, with the coroutines that are suspended in it.  A
coroutine only gives way where it awaits the write lock or the drain of the pipe,
so a call runs up to there in one step.  The lock is handed on in the order it was
asked for.  An identifier stands for its canonical text.
-/

namespace Paraegox.Textual

open Agent (SessionId TurnId)
open Stdio (InputFrame)

def PROTOCOL_VERSION : Nat := 1
def MAX_INPUT_BYTES : Nat := 4 * 1024
def MAX_STDIN_FRAME_BYTES : Nat := 16 * 1024
def MAX_STDOUT_FRAME_BYTES : Nat := 64 * 1024
def MAX_ERROR_BYTES : Nat := 512
def CANCEL_RESULTS : List String := ["cancellation_requested", "already_terminal", "not_active"]

/-- What a coroutine does once its frame is written and drained. -/
inductive AfterWrite where
  /-- `submit` returns. -/
  | submitReturns
  /-- `cancel` notes that it was sent. -/
  | cancelReturns
  /-- The `cancel` inside `shutdown`, which goes on with its own frame. -/
  | shutdownGoesOn
  /-- `shutdown` waits for the process. -/
  | shutdownWaits
deriving DecidableEq, Repr

/-- A coroutine in `_write_frame`. -/
structure Writer where
  frame : InputFrame
  after : AfterWrite
deriving DecidableEq, Repr

/-- The loop of `events`. -/
inductive Reader where
  | reading
  | finished
  | raised (error : BackendError)
deriving DecidableEq, Repr

structure Backend where
  sessionId : SessionId
  activeTurnId : Option TurnId
  cancelSent : Bool
  shutdownStarted : Bool
  /-- The coroutine that has the write lock; its frame is written. -/
  holder : Option Writer
  /-- Those that wait for the lock, first come first. -/
  waiters : List Writer
  reader : Reader
deriving DecidableEq, Repr

/-- `JsonlBackend` when `start` has returned. -/
def Backend.started (sessionId : SessionId) : Backend where
  sessionId
  activeTurnId := none
  cancelSent := false
  shutdownStarted := false
  holder := none
  waiters := []
  reader := .reading

/-! ## Input -/

/-- `str.isspace` of one character. -/
def isSpace (c : Char) : Bool := isWhitespace c || (0x1c ≤ c.toNat && c.toNat ≤ 0x1f)

/-- `validate_input`; category `Cc` is `char::is_control`. -/
def validateInput (text : String) (maxBytes : Nat) : Except BackendError Unit :=
  if ((text.toList.dropWhile isSpace).rdropWhile isSpace).isEmpty then
    .error ⟨"Agent input must not be empty"⟩
  else if maxBytes < text.utf8ByteSize then .error ⟨"Agent input exceeds 4 KiB"⟩
  else if text.toList.any isControl then
    .error ⟨"Agent input must not contain control characters"⟩
  else .ok ()

/-! ## Writing -/

/-- The object a request is written as. -/
def requestJson : InputFrame → Json
  | .submit v sessionId turnId input =>
      .obj [("v", .num v.toNat), ("type", .str "submit"), ("session_id", sessionId.toJson),
        ("turn_id", turnId.toJson), ("input", .str input)]
  | .cancel v sessionId turnId =>
      .obj [("v", .num v.toNat), ("type", .str "cancel"), ("session_id", sessionId.toJson),
        ("turn_id", turnId.toJson)]
  | .shutdown v sessionId =>
      .obj [("v", .num v.toNat), ("type", .str "shutdown"), ("session_id", sessionId.toJson)]

namespace Backend

variable (b : Backend)

/-- `_write_frame` up to where it waits: for the lock, or with its frame written. -/
def writeFrame (w : Writer) : Except BackendError (Backend × List InputFrame) :=
  if MAX_STDIN_FRAME_BYTES < (requestJson w.frame).encodedLen then
    .error ⟨"Paraegox request exceeds the 16 KiB frame limit"⟩
  else if b.holder.isNone ∧ b.waiters = [] then .ok ({ b with holder := some w }, [w.frame])
  else .ok ({ b with waiters := b.waiters ++ [w] }, [])

/-- What a step hands to the caller of a method, and the frames it wrote. -/
structure Effect where
  result : Option (Except BackendError Bool)
  backend : Backend
  written : List InputFrame

/-- `submit`, with the identifier it draws. -/
def submit (text : String) (turnId : TurnId) : Effect :=
  if b.activeTurnId.isSome then
    ⟨some (.error ⟨"Only one Agent Turn may be active"⟩), b, []⟩
  else
    match validateInput text MAX_INPUT_BYTES with
    | .error error => ⟨some (.error error), b, []⟩
    | .ok () =>
        match { b with activeTurnId := some turnId, cancelSent := false }.writeFrame
            ⟨.submit 1 b.sessionId turnId text, .submitReturns⟩ with
        | .ok (b', written) => ⟨none, b', written⟩
        | .error error =>
            ⟨some (.error error), { b with activeTurnId := none, cancelSent := false }, []⟩

/-- The Turn `cancel` asks to cancel. -/
def cancelTarget : Option TurnId := if b.cancelSent then none else b.activeTurnId

/-- `cancel`. -/
def cancel : Effect :=
  match b.cancelTarget with
  | none => ⟨some (.ok false), b, []⟩
  | some turnId =>
      match b.writeFrame ⟨.cancel 1 b.sessionId turnId, .cancelReturns⟩ with
      | .ok (b', written) => ⟨none, b', written⟩
      | .error error => ⟨some (.error error), b, []⟩

/-- The second frame of `shutdown`.  A `BackendError` is suppressed. -/
def writeShutdown : Backend × List InputFrame :=
  match b.writeFrame ⟨.shutdown 1 b.sessionId, .shutdownWaits⟩ with
  | .ok p => p
  | .error _ => (b, [])

/-- `shutdown`, up to where it waits. -/
def shutdown : Effect :=
  if b.shutdownStarted then ⟨none, b, []⟩
  else
    let b := { b with shutdownStarted := true }
    match b.cancelTarget with
    | none => ⟨none, b.writeShutdown.1, b.writeShutdown.2⟩
    | some turnId =>
        match b.writeFrame ⟨.cancel 1 b.sessionId turnId, .shutdownGoesOn⟩ with
        | .ok (b', written) => ⟨none, b', written⟩
        | .error _ => ⟨none, b, []⟩

/-- The lock goes to the first that waits, which writes its frame. -/
def acquire : Option Effect :=
  match b.holder, b.waiters with
  | none, w :: waiters => some ⟨none, { b with holder := some w, waiters }, [w.frame]⟩
  | _, _ => none

/-- The pipe is drained: the lock is released, and the coroutine goes on. -/
def drained : Option Effect :=
  match b.holder with
  | none => none
  | some w =>
      let b := { b with holder := none }
      match w.after with
      | .submitReturns => some ⟨some (.ok true), b, []⟩
      | .cancelReturns => some ⟨some (.ok true), { b with cancelSent := true }, []⟩
      | .shutdownGoesOn =>
          let b := { b with cancelSent := true }
          some ⟨none, b.writeShutdown.1, b.writeShutdown.2⟩
      | .shutdownWaits => some ⟨none, b, []⟩

/-! ## Reading -/

/-- `_require_session_identity`. -/
def requireSessionIdentity (sessionId : Option Json) : Except BackendError Unit := do
  let canonical ← canonicalUuid sessionId "SessionId"
  if canonical ≠ b.sessionId.uuid.hyphenated then
    .error ⟨"Paraegox event does not match this Session"⟩
  else .ok ()

/-- `_require_active_identity`. -/
def requireActiveIdentity (value : Frame) : Except BackendError Unit := do
  b.requireSessionIdentity (value.lookup "session_id")
  let turnId ← canonicalUuid (value.lookup "turn_id") "TurnId"
  match b.activeTurnId with
  | none => .error ⟨"Paraegox event does not match the active Turn"⟩
  | some active =>
      if turnId ≠ active.uuid.hyphenated then
        .error ⟨"Paraegox event does not match the active Turn"⟩
      else .ok ()

/-- `frame.get("v") == PROTOCOL_VERSION`. -/
def isVersion : Option Json → Bool
  | some (.num n) => n = PROTOCOL_VERSION
  | some (.bool value) => value
  | _ => false

/-- `_validate_event`. -/
def validateEvent (frame : Frame) : Except BackendError Unit :=
  if ¬ isVersion (frame.lookup "v") then
    .error ⟨"Paraegox backend sent an unsupported protocol version"⟩
  else
    match frame.lookup "type" with
    | some (.str "cancel_result") => do
        requireExactFields frame ["v", "type", "session_id", "turn_id", "result"] "cancel_result"
        b.requireActiveIdentity frame
        match frame.lookup "result" with
        | some (.str result) =>
            if result ∉ CANCEL_RESULTS then
              .error ⟨"Paraegox backend sent an invalid cancel result"⟩
            else .ok ()
        | _ => .error ⟨"Paraegox backend sent an invalid cancel result"⟩
    | some (.str "turn_terminal") => do
        requireExactFields frame ["v", "type", "result"] "turn_terminal"
        match frame.lookup "result" with
        | some (.obj result) => do
            requireExactFields result ["session_id", "turn_id", "terminal"] "turn result"
            b.requireActiveIdentity result
            validateTerminal (result.lookup "terminal")
        | _ => .error ⟨"Paraegox terminal result must be an object"⟩
    | some (.str "turn_error") => do
        requireExactFields frame ["v", "type", "session_id", "turn_id", "message"] "turn_error"
        b.requireActiveIdentity frame
        match frame.lookup "message" with
        | some (.str message) =>
            if MAX_ERROR_BYTES < message.utf8ByteSize then
              .error ⟨"Paraegox Turn error message exceeds 512 bytes"⟩
            else .ok ()
        | _ => .error ⟨"Paraegox Turn error message must be text"⟩
    | some (.str "stopped") => do
        requireExactFields frame ["v", "type", "session_id"] "stopped"
        b.requireSessionIdentity (frame.lookup "session_id")
    | _ => .error ⟨"Paraegox backend sent an unknown event"⟩

/-- `_read_frame`, on the object of a line. -/
def readFrame (line : Json) : Except BackendError Frame :=
  if MAX_STDOUT_FRAME_BYTES < line.encodedLen then
    .error ⟨"Paraegox backend sent an invalid JSONL frame"⟩
  else
    match line with
    | .obj frame => .ok frame
    | _ => .error ⟨"Paraegox backend frame must be a JSON object"⟩

/-- One round of `events`. -/
def event (line : Json) : Backend :=
  match (do let frame ← readFrame line; b.validateEvent frame; pure frame) with
  | .error error => { b with reader := .raised error }
  | .ok frame =>
      match frame.lookup "type" with
      | some (.str "turn_terminal") => { b with activeTurnId := none, cancelSent := false }
      | some (.str "turn_error") =>
          { b with activeTurnId := none, cancelSent := false, reader := .finished }
      | some (.str "stopped") => { b with reader := .finished }
      | _ => b

end Backend

end Paraegox.Textual
