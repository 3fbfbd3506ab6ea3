import Paraegox.Agent.Client
import Paraegox.Lib.Dialogue
import Paraegox.Tui.View

/-!
# The terminal conversation

`run_tui` as a machine, fullscreen or line by line.  Its points are the heads of the three
loops and what is left of `run_tui` around them.  The event stream and the pinned
submission are polled together in `select!`.  A panic unwinds through the guard that
restores the terminal.
-/

namespace Paraegox.Tui

open Agent (AgentConversationClient AgentError CancelResult Duration Reply SessionId TurnId
  TurnTerminal)

/-- Two seconds. -/
def CONTROL_TIMEOUT : Duration := 2 * 1000000000

def controlTimeout (turnTimeout : Duration) : Duration := min turnTimeout CONTROL_TIMEOUT

/-! ## Errors -/

inductive ErrorKind where
  | timedOut
  | unexpectedEof
  | other
deriving DecidableEq, Repr

/-- An `io::Error`. -/
structure IoError where
  kind : ErrorKind
  message : String
deriving DecidableEq, Repr

/-- The errors a `Box<dyn Error>` of the chat holds. -/
inductive TuiError where
  | io (error : IoError)
  | agent (error : AgentError)
deriving DecidableEq, Repr

/-- What an error displays. -/
def TuiError.message : TuiError → String
  | .io error => error.message
  | .agent error => error.message

abbrev TuiResult := Except TuiError Unit

/-- Two results, where the second one is of some cleaning up. -/
def combine (during : String) (result cleanup : TuiResult) : TuiResult :=
  match result, cleanup with
  | .ok (), cleanup => cleanup
  | .error error, .ok () => .error error
  | .error error, .error cleanupError =>
      .error (.io ⟨.other, error.message ++ "; " ++ during ++ " also failed: " ++
        cleanupError.message⟩)

/-! ## Terminal events -/

inductive KeyCode where
  | enter
  | esc
  | backspace
  | delete
  | left
  | right
  | home
  | endKey
  | char (character : Char)
  | other
deriving DecidableEq

structure KeyModifiers where
  control : Bool := false
  alt : Bool := false
deriving DecidableEq

inductive KeyEventKind where
  | press
  | repeating
  | release
deriving DecidableEq

structure KeyEvent where
  code : KeyCode
  modifiers : KeyModifiers := {}
  kind : KeyEventKind := .press
deriving DecidableEq

/-- A terminal event; what the chat ignores is `other`. -/
inductive Event where
  | key (key : KeyEvent)
  | paste (text : String)
  | other
deriving DecidableEq

def isKeyInput (key : KeyEvent) : Bool := key.kind = .press || key.kind = .repeating

def isCtrlC (key : KeyEvent) : Bool :=
  key.modifiers.control && (key.code = .char 'c' || key.code = .char 'C')

inductive IdleAction where
  | continue
  | submit (input : String)
  | quit
deriving DecidableEq

inductive ActiveAction where
  | continue
  | cancel
  | quit
deriving DecidableEq

/-- A block over the chat. -/
abbrev AppEdit := Exec ChatApp Empty

/-- A call of `app.editor`. -/
def editing {α : Type} (edit : Edit α) : AppEdit α := do
  let app ← get
  match EStateM.run edit app.editor with
  | .ok a editor =>
      set { app with editor }
      return a
  | .error fault editor =>
      set { app with editor }
      throw fault

def noting (notice : String) : AppEdit Unit := modify fun app => app.setNotice notice

/-- The keys that are pressed while no Turn is active. -/
def handleIdleKey (key : KeyEvent) : AppEdit IdleAction := do
  if isCtrlC key then
    return .quit
  match key.code with
  | .enter =>
      let app ← get
      if app.editor.text = utf8 "/quit" then
        return .quit
      else if (trim (textOf app.editor.text).toList).isEmpty then
        return .continue
      else
        return .submit (textOf (← editing InputEditor.take))
  | .esc =>
      editing InputEditor.clear
      noting "Input cleared"
      return .continue
  | .backspace =>
      editing InputEditor.backspace
      return .continue
  | .delete =>
      editing InputEditor.delete
      return .continue
  | .left =>
      editing InputEditor.moveLeft
      return .continue
  | .right =>
      editing InputEditor.moveRight
      return .continue
  | .home =>
      editing InputEditor.moveHome
      return .continue
  | .endKey =>
      editing InputEditor.moveEnd
      return .continue
  | .char character =>
      if key.modifiers.control ∨ key.modifiers.alt then
        return .continue
      if !(← editing (InputEditor.insert character)) then
        noting "Input is limited to 4 KiB"
      return .continue
  | .other => return .continue

def handleIdleEvent : Event → AppEdit IdleAction
  | .key key => if isKeyInput key then handleIdleKey key else return .continue
  | .paste text => do
      if !(← editing (InputEditor.insertText text)) then
        noting "Input is limited to 4 KiB"
      return .continue
  | .other => return .continue

def handleActiveEvent : Event → ActiveAction
  | .key key =>
      if isKeyInput key ∧ isCtrlC key then .quit
      else if isKeyInput key ∧ key.code = .esc then .cancel
      else .continue
  | _ => .continue

/-! ## What the chat awaits -/

/-- What `events.next()` returns. -/
abbrev NextEvent := Option (Except IoError Event)

def nextTerminalEvent : NextEvent → Except IoError Event
  | some event => event
  | none => .error ⟨.unexpectedEof, "terminal event stream closed"⟩

/-- The branch the `select!` of `drive_active_turn` takes. -/
inductive Selected where
  | submission (reply : Reply)
  | event (event : NextEvent)

/-- The branch a `select!` of `run_line_conversation` takes, beside a Ctrl-C. -/
inductive OrCtrlC (α : Type) where
  | branch (a : α)
  | ctrlC (signal : Except IoError Unit)

/-- What the chat awaits or calls. -/
inductive Request where
  /-- `AgentConversationClient::connect(..)`. -/
  | connect (deadline : Duration)
  /-- `client.close(..)`. -/
  | close (deadline : Duration)
  /-- `ratatui::try_init()`. -/
  | tryInit
  /-- `ratatui::try_restore()`. -/
  | tryRestore
  /-- `ratatui::restore()`. -/
  | restore
  /-- The size that `terminal.draw` asks for. -/
  | area
  | draw (view : View)
  /-- `next_terminal_event(..)` while no Turn is active. -/
  | event
  /-- `TurnId::new()`. -/
  | turnId
  /-- The `select!` of `drive_active_turn`. -/
  | select (turnId : TurnId) (input : String)
  /-- `client.cancel(..)`. -/
  | cancel (turnId : TurnId) (deadline : Duration)
  /-- The `select!` on a line of the input. -/
  | line
  /-- The `select!` on the submission of a line. -/
  | lineTurn (turnId : TurnId) (input : String)
  /-- `println!`. -/
  | println (text : String)
  /-- `io::stdout().flush()`. -/
  | flush
deriving DecidableEq

def Request.Answer : Request → Type
  | .connect _ => Except AgentError Unit
  | .close _ => Except AgentError Unit
  | .restore => Unit
  | .area => Except IoError Area
  | .event => NextEvent
  | .turnId => TurnId
  | .select _ _ => Selected
  | .cancel _ _ => Reply
  | .line => OrCtrlC (Except IoError (Option String))
  | .lineTurn _ _ => OrCtrlC Reply
  | _ => Except IoError Unit

/-- A block of the chat. -/
abbrev Block (α : Type) := ExceptT (Fault TuiError) (Dialogue Request Request.Answer) α

def await (request : Request) : Block (Request.Answer request) := liftM (Dialogue.request request)

/-- The `?` of a result. -/
def propagate {ε α : Type} (into : ε → TuiError) : Except ε α → Block α
  | .ok a => pure a
  | .error error => throw (.error (into error))

/-- A panic of a part that returns no error. -/
def unwind {α : Type} : Fault Empty → Block α
  | .panic message => throw (.panic message)

/-- What `run_tui` is started with, and whether it is on a terminal. -/
structure Conversation where
  target : String
  connectEndpoint : String
  sessionId : SessionId
  timeout : Duration
  isTerminal : Bool
deriving DecidableEq, Repr

namespace Conversation

variable (conversation : Conversation)

def client : AgentConversationClient := ⟨conversation.sessionId⟩

/-- The heads of the loops, and what is before and after them. -/
inductive Point where
  /-- `run_tui` before its conversation. -/
  | opening
  /-- The loop of `fullscreen_event_loop`. -/
  | fullscreen (app : ChatApp)
  /-- The loop of `drive_active_turn`. -/
  | driving (app : ChatApp) (turnId : TurnId) (input : String)
  /-- `fullscreen_event_loop` has returned. -/
  | restoring (result : TuiResult)
  /-- The loop of `run_line_conversation`. -/
  | lines
  /-- The conversation has returned. -/
  | closing (result : TuiResult)
  /-- `run_tui` has returned. -/
  | exited (result : TuiResult)
  /-- A panic has left `run_fullscreen_conversation` with the guard armed. -/
  | unwinding (message : String)
  | panicked (message : String)

/-! ## Fullscreen -/

/-- `terminal.draw(..)`. -/
def drawApp (app : ChatApp) : Block Unit := do
  let area ← propagate .io (← await .area)
  match renderApp area app with
  | .error fault => unwind fault
  | .ok view => propagate .io (← await (.draw view))

/-- The loop body of `fullscreen_event_loop`. -/
def fullscreenEventLoop (app : ChatApp) : Block Point := do
  drawApp app
  let event ← propagate .io (nextTerminalEvent (← await .event))
  match EStateM.run (handleIdleEvent event) app with
  | .error fault _ => unwind fault
  | .ok .continue app => pure (.fullscreen app)
  | .ok .quit _ => pure (.restoring (.ok ()))
  | .ok (.submit input) app => do
      let turnId ← await .turnId
      pure (.driving (app.beginTurn input) turnId input)

/-- `client.cancel(..)?` with the control timeout. -/
def cancelTurn (turnId : TurnId) : Block CancelResult := do
  let reply ← await (.cancel turnId (controlTimeout conversation.timeout))
  propagate .agent (conversation.client.cancel turnId reply)

/-- `client.submit_turn(..)?`, on the reply that its request gets. -/
def submitTurn (turnId : TurnId) (input : String) (reply : Reply) : Block TurnTerminal := do
  let result ← propagate .agent
    (conversation.client.submitTurn turnId input conversation.timeout reply)
  return result.terminal

/-- The loop body of `drive_active_turn`, and of what follows it in the loop around.  Where
it quits, the chat it leaves is not drawn again. -/
def driveActiveTurn (app : ChatApp) (turnId : TurnId) (input : String) : Block Point := do
  drawApp app
  match ← await (.select turnId input) with
  | .submission reply => do
      let terminal ← conversation.submitTurn turnId input reply
      pure (.fullscreen (app.finishTurn terminal))
  | .event event => do
      match handleActiveEvent (← propagate .io (nextTerminalEvent event)) with
      | .continue => pure (.driving app turnId input)
      | .cancel => do
          match ← conversation.cancelTurn turnId with
          | .cancellationRequested => pure (.driving app.cancellationRequested turnId input)
          | .alreadyTerminal terminal => pure (.fullscreen (app.finishTurn terminal))
          | .notActive =>
              pure (.driving (app.setNotice "Cancellation is not active yet; still waiting")
                turnId input)
      | .quit => do
          let _ ← conversation.cancelTurn turnId
          pure (.restoring (.ok ()))

/-- The end of `run_fullscreen_conversation`: `finish`, and the drop of the guard, which is
armed as long as the terminal could not be restored. -/
def restoreTerminal (result : TuiResult) : Block Point := do
  let restored ← await .tryRestore
  if let .error _ := (restored : Except IoError Unit) then
    let _ ← await .restore
  pure (.closing (combine "restoring the terminal" result (restored.mapError .io)))

/-! ## Line by line -/

/-- The reply on the output. -/
def printReply (content : String) : Block Point := do
  match ← await (.println ("agent> " ++ content)) with
  | .error error => throw (.panic ("failed printing to stdout: " ++ error.message))
  | .ok () =>
      propagate .io (← await .flush)
      pure .lines

/-- The Turn of a line in `run_line_conversation`. -/
def driveLine (turnId : TurnId) (input : String) : Block Point := do
  match ← await (.lineTurn turnId input) with
  | .ctrlC signal => do
      propagate .io signal
      let _ ← conversation.cancelTurn turnId
      pure (.closing (.ok ()))
  | .branch reply => do
      match ← conversation.submitTurn turnId input reply with
      | .final content => printReply content
      | .cancelled => throw (.error (.io ⟨.other, "Agent turn was cancelled"⟩))
      | .timedOut => throw (.error (.io ⟨.timedOut, "Agent turn timed out"⟩))
      | .failed reason => throw (.error (.io ⟨.other, reason.message⟩))

/-- The loop body of `run_line_conversation`. -/
def runLineConversation : Block Point := do
  match ← await .line with
  | .ctrlC signal => do
      propagate .io signal
      pure (.closing (.ok ()))
  | .branch line => do
      match ← propagate .io line with
      | none => pure (.closing (.ok ()))
      | some input =>
          if input = "/quit" then pure (.closing (.ok ()))
          else if (trim input.toList).isEmpty then pure .lines
          else
            let turnId ← await .turnId
            conversation.driveLine turnId input

/-! ## The conversation -/

/-- `run_tui` up to the conversation, and what the conversation does before its loop. -/
def openConversation : Block Point := do
  propagate .agent (← await (.connect conversation.timeout))
  if conversation.isTerminal then
    match ← await .tryInit with
    | .error error =>
        let _ ← await .restore
        pure (.closing (.error (.io error)))
    | .ok () =>
        let app := ChatApp.new conversation.target conversation.connectEndpoint
          conversation.sessionId
        pure (.fullscreen app)
  else pure .lines

/-- `run_tui` after the conversation. -/
def closeConversation (result : TuiResult) : Block Point := do
  let closeResult ← await (.close (controlTimeout conversation.timeout))
  pure (.exited (combine "closing the Agent conversation" result (closeResult.mapError .agent)))

/-- Where an error or a panic leads. -/
def pointOf (onError : TuiResult → Point) (onPanic : String → Point) :
    Except (Fault TuiError) Point → Point
  | .ok point => point
  | .error (.error error) => onError (.error error)
  | .error (.panic message) => onPanic message

/-- `run_tui`. -/
def runTui : Machine Request Request.Answer Point where
  resume
    | .opening => pointOf .exited .panicked <$> conversation.openConversation.run
    | .fullscreen app => pointOf .restoring .unwinding <$> (fullscreenEventLoop app).run
    | .driving app turnId input =>
        pointOf .restoring .unwinding <$> (conversation.driveActiveTurn app turnId input).run
    | .restoring result => pointOf .closing .unwinding <$> (restoreTerminal result).run
    | .lines => pointOf .closing .panicked <$> conversation.runLineConversation.run
    | .closing result => pointOf .exited .panicked <$> (conversation.closeConversation result).run
    | .exited result => .pure (.exited result)
    | .unwinding message =>
        (fun _ => Point.panicked message) <$> Dialogue.request Request.restore
    | .panicked message => .pure (.panicked message)

end Conversation

end Paraegox.Tui
