import Paraegox.Lib.Recent
import Paraegox.Textual.Truncation

/-!
# The Textual client

The App `ParaegoxTextual`, without its widgets: the state its handlers keep and what they
put into the panels.  A handler that awaits the backend is cut in two there; what it goes
on with, once the backend has told it, is `hear`.
-/

namespace Paraegox.Textual

open Agent (TurnId)

def MAX_UI_MESSAGES : Nat := 64
def MAX_MESSAGE_BYTES : Nat := 16 * 1024

inductive Role where
  | you
  | agent
  | system
deriving DecidableEq, Repr

structure ChatMessage where
  role : Role
  content : String
deriving DecidableEq, Repr

/-- The state the status panel gives for the local Turn. -/
inductive LocalTurn where
  | starting
  | waiting
  | idle
  | error
  | closed
deriving DecidableEq, Repr

/-- What `_update_status` has written. -/
structure StatusPanel where
  clientOpen : Bool
  localTurn : LocalTurn
deriving DecidableEq, Repr

/-- What `_update_footer` has written; the keys are those of a Turn or those without one. -/
structure Footer where
  turnKeys : Bool
  notice : String
deriving DecidableEq, Repr

structure ParaegoxTextual where
  messages : List ChatMessage
  activeTurnId : Option TurnId
  quitRequested : Bool
  connected : Bool
  backendFailed : Bool
  notice : String
  status : StatusPanel
  footer : Footer
  /-- The text of the input. -/
  value : String
  /-- The input takes nothing. -/
  disabled : Bool
  /-- The App was told to exit. -/
  returnCode : Option Nat
deriving DecidableEq, Repr

/-- What the backend tells the handlers that wait for it. -/
inductive Told where
  /-- `start` has returned. -/
  | started
  /-- `submit` has returned. -/
  | submitted (turnId : TurnId) (text : String)
  /-- It has raised an `InputValidationError`. -/
  | invalid (error : BackendError)
  /-- `submit` or `cancel` has raised another `BackendError`. -/
  | refused (error : BackendError)
  | cancelled (requested : Bool)
  /-- `events` has yielded a frame. -/
  | event (frame : Frame)
  /-- `start` or `events` has raised. -/
  | failed (error : BackendError)
  /-- `shutdown` is over, for the handler that is to exit with this code. -/
  | closed (returnCode : Nat) (result : Except BackendError Unit)

namespace ParaegoxTextual

/-- The App when it is mounted. -/
def mounted : ParaegoxTextual where
  messages := []
  activeTurnId := none
  quitRequested := false
  connected := false
  backendFailed := false
  notice := "Opening the local Fabric client…"
  status := ⟨false, .starting⟩
  footer := ⟨false, "Opening the local Fabric client…"⟩
  value := ""
  disabled := true
  returnCode := none

variable (app : ParaegoxTextual)

/-! ## What it shows -/

def updateStatus (state : LocalTurn) : ParaegoxTextual :=
  { app with status := ⟨app.connected, state⟩ }

def updateFooter : ParaegoxTextual :=
  { app with footer := ⟨app.activeTurnId.isSome, app.notice⟩ }

def setNotice (notice : String) : ParaegoxTextual :=
  { app with notice := boundedText notice MAX_ERROR_BYTES }.updateFooter

def appendMessage (role : Role) (content : String) : ParaegoxTextual :=
  { app with
    messages := (if app.messages.length = MAX_UI_MESSAGES then app.messages.tail
      else app.messages) ++ [⟨role, boundedText content MAX_MESSAGE_BYTES⟩] }

def showError (error : BackendError) : ParaegoxTextual :=
  let message := boundedText error.message MAX_ERROR_BYTES
  { ((app.appendMessage .system message).updateStatus .error).setNotice message with
    disabled := true }

def markBackendFailed : ParaegoxTextual :=
  { app with backendFailed := true, connected := false }

def finishActiveTurn (enableInput : Bool) : ParaegoxTextual :=
  { app with activeTurnId := none, disabled := ! enableInput || app.quitRequested }.updateFooter

/-! ## What the user does -/

/-- `bound_input`, on the text the input has now. -/
def boundInput (value : String) : ParaegoxTextual :=
  let bounded := truncateUtf8 value MAX_INPUT_BYTES false
  if bounded = value then { app with value }
  else { app with value := bounded }.setNotice "Input is limited to 4 KiB"

/-- `action_cancel_or_clear` without a Turn. -/
def clearInput : ParaegoxTextual := { app with value := "" }.setNotice "Input cleared"

/-- The first `action_quit_orderly`. -/
def requestQuit : ParaegoxTextual :=
  { app with quitRequested := true }.setNotice "Closing the Agent conversation…"

/-! ## What the backend tells it -/

/-- `_handle_backend_event` on the terminal of a Turn; without a result it has raised. -/
def handleTerminal (terminal : Frame) : Option ParaegoxTextual :=
  match terminal.lookup "terminal" with
  | some (.str "final") =>
      match terminal.lookup "content" with
      | some (.str content) =>
          some (((app.appendMessage .agent content).updateStatus .idle).setNotice
            "Agent reply received")
      | _ => none
  | some (.str "cancelled") =>
      some (((app.appendMessage .system "Turn cancelled").updateStatus .idle).setNotice
        "The active Turn was cancelled")
  | some (.str "timed_out") =>
      some (((app.appendMessage .system "Turn timed out").updateStatus .error).setNotice
        "The last Turn timed out")
  | some _ =>
      match terminal.lookup "reason" with
      | some (.str reason) =>
          let reason := String.ofList (reason.toList.map fun c => if c = '_' then ' ' else c)
          some (((app.appendMessage .system ("Turn failed: " ++ reason)).updateStatus
            .error).setNotice "The last Turn failed")
      | _ => none
  | none => none

/-- `_handle_backend_event`; without a result it has raised. -/
def handleBackendEvent (frame : Frame) : Option ParaegoxTextual :=
  match frame.lookup "type" with
  | some (.str "cancel_result") =>
      match frame.lookup "result" with
      | some (.str "cancellation_requested") =>
          some (app.setNotice "Agent cancellation accepted; waiting for terminal")
      | some (.str "already_terminal") => some (app.setNotice "Turn was already terminal")
      | some _ => some (app.setNotice "Agent reported that the Turn is not active")
      | none => none
  | some (.str "turn_terminal") =>
      match frame.lookup "result" with
      | some (.obj result) =>
          match result.lookup "terminal" with
          | some (.obj terminal) =>
              (app.handleTerminal terminal).map fun app => app.finishActiveTurn true
          | _ => none
      | _ => none
  | some (.str "turn_error") =>
      match frame.lookup "message" with
      | some (.str message) =>
          some (((((app.markBackendFailed).appendMessage .system
            ("Turn outcome is unknown: " ++ boundedText message MAX_ERROR_BYTES)).updateStatus
              .error).setNotice "Backend could not confirm an Agent terminal").finishActiveTurn
                false)
      | _ => none
  | some (.str "stopped") =>
      some (({ app with connected := false }.updateStatus .closed).setNotice
        "Agent conversation closed")
  | some _ => some app
  | none => none

/-- `_shutdown_and_exit` after its `shutdown`. -/
def exit (returnCode : Nat) (result : Except BackendError Unit) : ParaegoxTextual :=
  match result with
  | .ok () => { app with returnCode := some (if app.backendFailed then 1 else returnCode) }
  | .error error => { app.showError error with returnCode := some 1 }

/-- What a handler goes on with; without a result it has raised. -/
def hear : Told → Option ParaegoxTextual
  | .started => some (({ app with connected := true, disabled := false }.updateStatus
      .idle).setNotice "Fabric client open; Agent availability requires a Turn response")
  | .submitted turnId text =>
      some ((({ app with activeTurnId := some turnId, value := "", disabled := true }.appendMessage
        .you text).updateStatus .waiting).setNotice
          "Waiting for the authoritative final response")
  | .invalid error => some (app.setNotice error.message)
  | .refused error => some (app.markBackendFailed.showError error)
  | .cancelled requested =>
      some (if requested then
        (app.appendMessage .system "Cancellation requested").setNotice
          "Waiting for the Turn terminal"
      else app)
  | .event frame => app.handleBackendEvent frame
  | .failed error =>
      some (if app.quitRequested then app.markBackendFailed
      else app.markBackendFailed.showError error)
  | .closed returnCode result => some (app.exit returnCode result)

/-- The `finally` of `_backend_loop`. -/
def loopEnded : ParaegoxTextual :=
  if app.connected then
    let app := app.markBackendFailed
    if app.quitRequested then app
    else (app.updateStatus .error).setNotice "Backend event stream closed unexpectedly"
  else app

end ParaegoxTextual

end Paraegox.Textual
