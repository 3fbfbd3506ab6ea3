import Paraegox.Lib.Recent
import Paraegox.Tui.App

/-!
# What the terminal chat draws

`render_app`, without its colours and its layout: the panels it draws and the texts in
them.  Only what the size of the terminal decides is taken from the area.
-/

namespace Paraegox.Tui

open Agent (SessionId)

def THREE_COLUMN_WIDTH : Nat := 110
def TWO_COLUMN_WIDTH : Nat := 80
def SIDEBAR_HEIGHT : Nat := 24
def MIN_TERMINAL_WIDTH : Nat := 40
def MIN_TERMINAL_HEIGHT : Nat := 12
def MAX_RENDERED_CHAT_LINES : Nat := 512

structure Area where
  width : Nat
  height : Nat
deriving DecidableEq

/-- The texts of the spans of a line. -/
abbrev Line := List String

structure SessionPanel where
  id : SessionId
  messages : Nat
  turns : Nat
deriving DecidableEq

structure TargetPanel where
  node : String
  endpoint : String
  agentRequest : String
deriving DecidableEq

/-- What is on the screen.  The cursor stands after the text that is given for it. -/
inductive View where
  | tooSmall
  | chat (target : String) (session : Option SessionPanel) (panel : Option TargetPanel)
      (lines : List Line) (input : String) (cursor : Option String) (keys notice : String)
deriving DecidableEq

/-! ## The chat -/

def MessageRole.label : MessageRole → String
  | .user => "YOU"
  | .agent => "AGENT"
  | .system => "SYSTEM"

/-- `format!("{prefix:<7}")`. -/
def padLabel (label : String) : String :=
  label ++ String.ofList (List.replicate (7 - label.length) ' ')

/-- The lines of a message, and the blank line after it. -/
def ChatMessage.lines (message : ChatMessage) : List Line :=
  ((message.content.toList.splitOn '\n').zipIdx.map fun (content, index) =>
    [padLabel (if index = 0 then message.role.label else ""), String.ofList content]) ++ [[""]]

def pushRenderLine (lines : List Line) (line : Line) : List Line :=
  (if lines.length = MAX_RENDERED_CHAT_LINES then lines.tail else lines) ++ [line]

def chatLines (messages : List ChatMessage) : List Line :=
  if messages.isEmpty then
    [["Ready. Send a message to contact the Agent on this target."],
      ["The current session is temporary and stays on the Agent service."]]
  else messages.foldl (fun lines message => message.lines.foldl pushRenderLine lines) []

/-! ## The panels -/

/-- `state_label`. -/
def AgentState.label : AgentState → String
  | .idle => "IDLE"
  | .waiting => "WAITING"
  | .error => "ERROR"

/-- The text of the editor, a `String`: its bytes are UTF-8. -/
def textOf (bytes : List UInt8) : String := (String.fromUTF8? ⟨bytes.toArray⟩).getD ""

def sessionPanel (app : ChatApp) : SessionPanel :=
  ⟨app.sessionId, app.messages.length, app.submittedTurns⟩

def targetPanel (app : ChatApp) : TargetPanel :=
  ⟨app.target, app.endpoint, app.agentState.label⟩

/-- `render_body`: the sidebars there is room for. -/
def sidebars (area : Area) (app : ChatApp) : Option SessionPanel × Option TargetPanel :=
  if SIDEBAR_HEIGHT ≤ area.height ∧ THREE_COLUMN_WIDTH ≤ area.width then
    (some (sessionPanel app), some (targetPanel app))
  else if SIDEBAR_HEIGHT ≤ area.height ∧ TWO_COLUMN_WIDTH ≤ area.width then
    (none, some (targetPanel app))
  else (none, none)

/-- The content of `render_input`. -/
def inputContent (app : ChatApp) : String :=
  if app.agentState = .waiting then "Waiting for Agent…"
  else if app.editor.text.isEmpty then "Write a message…"
  else textOf app.editor.text

/-- The keys of `render_footer`. -/
def footerKeys (app : ChatApp) : String :=
  if app.agentState = .waiting then " [Esc] cancel turn   [Ctrl-C] cancel + quit "
  else " [Enter] send   [Esc] clear   [Ctrl-C] quit   [/quit] quit "

/-- `render_app`.  It slices the text of the editor at the cursor, and so it may panic. -/
def renderApp (area : Area) (app : ChatApp) : Except (Fault Empty) View :=
  if area.width < MIN_TERMINAL_WIDTH ∨ area.height < MIN_TERMINAL_HEIGHT then .ok .tooSmall
  else
    match EStateM.run InputEditor.prefixText app.editor with
    | .error fault _ => .error fault
    | .ok before _ =>
        let (session, panel) := sidebars area app
        .ok (.chat app.target session panel (chatLines app.messages) (inputContent app)
          (if app.agentState = .waiting then none else some (textOf before)) (footerKeys app)
          app.notice)

/-! ## Lines -/

/-- Of all the lines there are, the last ones are drawn. -/
theorem chatLines_eq {messages : List ChatMessage} (h : messages ≠ []) :
    chatLines messages = (messages.flatMap ChatMessage.lines).rtake MAX_RENDERED_CHAT_LINES := by
  rw [chatLines, if_neg (by simpa using h), ← List.foldl_flatMap]
  exact Recent.foldl_push (by decide) [] _

end Paraegox.Tui
