import Paraegox.Agent.Types
import Paraegox.Tui.Editor

/-!
# The state of the terminal chat

`ChatApp`: what the fullscreen chat shows.  Every text that reaches it from outside is
bounded by `bounded_display_text` before it is kept.
-/

namespace Paraegox.Tui

open Agent (SessionId TurnTerminal)

def MAX_UI_MESSAGES : Nat := 64
def MAX_MESSAGE_BYTES : Nat := 16 * 1024
def MAX_NOTICE_BYTES : Nat := 512
def MAX_ENDPOINT_BYTES : Nat := 256

/-! ## Bounding -/

/-- What is shown of a character. -/
def displayChar (character : Char) : Char :=
  if character = '\n' then character
  else if isControl character then '\ufffd'
  else character

/-- The loop of `bounded_display_text`: the output, and whether it broke off. -/
def displayChars (maxBytes : Nat) (output : String) : List Char → String × Bool
  | [] => (output, false)
  | character :: characters =>
      let character := displayChar character
      if output.utf8ByteSize + character.utf8Size > maxBytes - 3 then (output, true)
      else displayChars maxBytes (output.push character) characters

def boundedDisplayText (value : String) (maxBytes : Nat) : String :=
  let (output, truncated) := displayChars maxBytes "" value.toList
  if truncated then output.push '…' else output

/-! ## The chat -/

inductive MessageRole where
  | user
  | agent
  | system
deriving DecidableEq

structure ChatMessage where
  role : MessageRole
  content : String
deriving DecidableEq

inductive AgentState where
  | idle
  | waiting
  | error
deriving DecidableEq

structure ChatApp where
  target : String
  endpoint : String
  sessionId : SessionId
  messages : List ChatMessage
  editor : InputEditor
  agentState : AgentState
  submittedTurns : Nat
  notice : String
deriving DecidableEq

namespace ChatApp

def new (target endpoint : String) (sessionId : SessionId) : ChatApp where
  target := boundedDisplayText target 64
  endpoint := boundedDisplayText endpoint MAX_ENDPOINT_BYTES
  sessionId
  messages := []
  editor := {}
  agentState := .idle
  submittedTurns := 0
  notice := "Fabric session open; Agent availability is confirmed by a reply"

variable (app : ChatApp)

def pushMessage (role : MessageRole) (content : String) : ChatApp :=
  let messages :=
    if app.messages.length = MAX_UI_MESSAGES then app.messages.tail else app.messages
  { app with messages := messages ++ [⟨role, boundedDisplayText content MAX_MESSAGE_BYTES⟩] }

def setNotice (notice : String) : ChatApp :=
  { app with notice := boundedDisplayText notice MAX_NOTICE_BYTES }

/-- `begin_turn`; the count of Turns saturates. -/
def beginTurn (input : String) : ChatApp :=
  let app := app.pushMessage .user input
  let app := { app with
    agentState := .waiting
    submittedTurns := min (app.submittedTurns + 1) (2 ^ 64 - 1) }
  app.setNotice "Waiting for the Agent response"

def finishTurn : TurnTerminal → ChatApp
  | .final content =>
      let app := app.pushMessage .agent content
      let app := { app with agentState := .idle }
      app.setNotice "Agent reply received"
  | .cancelled =>
      let app := app.pushMessage .system "Turn cancelled"
      let app := { app with agentState := .idle }
      app.setNotice "The active turn was cancelled"
  | .timedOut =>
      let app := app.pushMessage .system "Turn timed out"
      let app := { app with agentState := .error }
      app.setNotice "The last turn timed out"
  | .failed reason =>
      let app := app.pushMessage .system ("Turn failed: " ++ reason.message)
      let app := { app with agentState := .error }
      app.setNotice "The last turn failed"

def cancellationRequested : ChatApp :=
  (app.pushMessage .system "Cancellation requested").setNotice
    "The active turn cancellation was accepted"

end ChatApp

end Paraegox.Tui
