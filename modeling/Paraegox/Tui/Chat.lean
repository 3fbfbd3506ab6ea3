import Paraegox.Tui.Conversation
import Paraegox.Tui.Display

/-!
# The chat without its bounds

What the terminal chat is for: everything that was said, in order, and a draft of what is
said next.  Nothing is dropped and nothing is cut.  `ChatApp` is the chat within its
bounds, so what it shows is determined by what was said.
-/

namespace Paraegox.Tui

open Agent (TurnTerminal validateInput)

/-- What was said, and what is typed. -/
structure Chat where
  said : List (MessageRole × String) := []
  draft : Draft := .empty
  agentState : AgentState := .idle
  turns : Nat := 0
  notice : String := "Fabric session open; Agent availability is confirmed by a reply"

/-- What is said of a terminal. -/
def entry : TurnTerminal → MessageRole × String
  | .final content => (.agent, content)
  | .cancelled => (.system, "Turn cancelled")
  | .timedOut => (.system, "Turn timed out")
  | .failed reason => (.system, "Turn failed: " ++ reason.message)

/-- Where a terminal leaves the Agent. -/
def settled : TurnTerminal → AgentState
  | .final _ => .idle
  | .cancelled => .idle
  | .timedOut => .error
  | .failed _ => .error

def verdict : TurnTerminal → String
  | .final _ => "Agent reply received"
  | .cancelled => "The active turn was cancelled"
  | .timedOut => "The last turn timed out"
  | .failed _ => "The last turn failed"

/-- What an event edits. -/
def Event.edit? : Event → Option EditorOp
  | .key pressed =>
      match pressed.code with
      | .esc => some .clear
      | .backspace => some .backspace
      | .delete => some .delete
      | .left => some .moveLeft
      | .right => some .moveRight
      | .home => some .moveHome
      | .endKey => some .moveEnd
      | .char character =>
          if pressed.modifiers.control ∨ pressed.modifiers.alt then none
          else some (.insert character)
      | _ => none
  | .paste text => some (.insertText text)
  | .other => none

/-- A key that is pressed. -/
def Event.Presses (event : Event) (p : KeyEvent → Prop) : Prop :=
  ∃ key, event = .key key ∧ isKeyInput key ∧ p key

instance (event : Event) (p : KeyEvent → Prop) [DecidablePred p] : Decidable (event.Presses p) :=
  match event with
  | .key pressed => decidable_of_iff (isKeyInput pressed ∧ p pressed) (by simp [Event.Presses])
  | .paste _ => .isFalse (by simp [Event.Presses])
  | .other => .isFalse (by simp [Event.Presses])

/-- An event that does nothing at all: a key that is let go. -/
def Event.Ignored : Event → Bool
  | .key pressed => !isKeyInput pressed
  | _ => false

namespace Chat

variable (chat : Chat)

def say (role : MessageRole) (content : String) : Chat :=
  { chat with said := chat.said ++ [(role, content)] }

def begin (input : String) : Chat :=
  { chat.say .user input with
    agentState := .waiting
    turns := chat.turns + 1
    notice := "Waiting for the Agent response" }

def finish (terminal : TurnTerminal) : Chat :=
  { chat.say (entry terminal).1 (entry terminal).2 with
    agentState := settled terminal
    notice := verdict terminal }

def requestCancel : Chat :=
  { chat.say .system "Cancellation requested" with
    notice := "The active turn cancellation was accepted" }

def note (notice : String) : Chat := { chat with notice }

/-- The notice after an edit, where there is one. -/
def editNotice : EditorOp → EditorResult → Option String
  | .clear, _ => some "Input cleared"
  | _, .accepted false => some "Input is limited to 4 KiB"
  | _, _ => none

def edit (op : EditorOp) : Chat :=
  let (result, draft) := chat.draft.perform op
  { chat with draft, notice := (editNotice op result).getD chat.notice }

/-- An event while no Turn is active. -/
def press (event : Event) : IdleAction × Chat :=
  if event.Presses fun key => isCtrlC key then (.quit, chat)
  else if event.Presses fun key => key.code = .enter then
    let input := String.ofList chat.draft.chars
    if input = "/quit" then (.quit, chat)
    else if (trim chat.draft.chars).isEmpty then (.continue, chat)
    else (.submit input, { chat with draft := .empty })
  else if event.Ignored then (.continue, chat)
  else
    match event.edit? with
    | some op => (.continue, chat.edit op)
    | none => (.continue, chat)

/-! ## Within the bounds -/

/-- What the bounds leave of an entry. -/
def shown (entry : MessageRole × String) : ChatMessage :=
  ⟨entry.1, boundedDisplayText entry.2 MAX_MESSAGE_BYTES⟩

/-- The messages that are kept. -/
def messages : List ChatMessage := (chat.said.rtake MAX_UI_MESSAGES).map shown

/-- The chat within its bounds. -/
def app (conversation : Conversation) : ChatApp where
  target := boundedDisplayText conversation.target 64
  endpoint := boundedDisplayText conversation.connectEndpoint MAX_ENDPOINT_BYTES
  sessionId := conversation.sessionId
  messages := chat.messages
  editor := chat.draft.editor
  agentState := chat.agentState
  submittedTurns := min chat.turns (2 ^ 64 - 1)
  notice := boundedDisplayText chat.notice MAX_NOTICE_BYTES

/-- The lines that are drawn: of those of the messages that are kept, the last ones. -/
def lines : List Line :=
  if chat.said.isEmpty then
    [["Ready. Send a message to contact the Agent on this target."],
      ["The current session is temporary and stays on the Agent service."]]
  else
    ((chat.said.rtake MAX_UI_MESSAGES).flatMap fun entry => (shown entry).lines).rtake
      MAX_RENDERED_CHAT_LINES

/-- What is on the screen. -/
def view (conversation : Conversation) (area : Area) : View :=
  if area.width < MIN_TERMINAL_WIDTH ∨ area.height < MIN_TERMINAL_HEIGHT then .tooSmall
  else
    let app := chat.app conversation
    let waiting := chat.agentState = .waiting
    .chat app.target (sidebars area app).1 (sidebars area app).2 chat.lines
      (if waiting then "Waiting for Agent…"
        else if chat.draft.chars.isEmpty then "Write a message…"
        else String.ofList chat.draft.chars)
      (if waiting then none else some (String.ofList chat.draft.before)) (footerKeys app)
      app.notice

end Chat

/-! ## The chat refines -/

variable (conversation : Conversation) (chat : Chat)

theorem app_empty :
    Chat.app {} conversation =
      .new conversation.target conversation.connectEndpoint conversation.sessionId := by
  have hnotice : boundedDisplayText
      "Fabric session open; Agent availability is confirmed by a reply" MAX_NOTICE_BYTES =
        "Fabric session open; Agent availability is confirmed by a reply" := by
    decide +kernel
  rw [Chat.app, ChatApp.new, hnotice]
  rfl

theorem app_say (role : MessageRole) (content : String) :
    (chat.say role content).app conversation =
      (chat.app conversation).pushMessage role content := by
  have hpush : Recent.push MAX_UI_MESSAGES ((chat.said.map Chat.shown).rtake MAX_UI_MESSAGES)
      (Chat.shown (role, content)) = _ :=
    Recent.push_rtake (by decide) (chat.said.map Chat.shown) (Chat.shown (role, content))
  have hmessages : (chat.say role content).messages =
      Recent.push MAX_UI_MESSAGES chat.messages (Chat.shown (role, content)) := by
    rw [Chat.messages, Chat.messages, ← Recent.rtake_map, ← Recent.rtake_map, hpush, Chat.say,
      List.map_append, List.map_singleton]
  rw [Chat.app, hmessages]
  rfl

theorem app_note (notice : String) :
    (chat.note notice).app conversation = (chat.app conversation).setNotice notice := by
  simp only [Chat.note, Chat.app, Chat.messages, ChatApp.setNotice]

/-- A count that saturates. -/
theorem saturates (count limit : Nat) :
    min (min count limit + 1) limit = min (count + 1) limit := by
  omega

theorem app_begin (input : String) :
    (chat.begin input).app conversation = (chat.app conversation).beginTurn input := by
  have hsay := app_say conversation chat .user input
  have hcount := saturates chat.turns (2 ^ 64 - 1)
  rw [ChatApp.beginTurn, ← hsay, Chat.app, Chat.app, ChatApp.setNotice]
  dsimp only
  rw [show (chat.say .user input).turns = chat.turns from rfl, hcount]
  rfl

theorem app_finish (terminal : TurnTerminal) :
    (chat.finish terminal).app conversation = (chat.app conversation).finishTurn terminal := by
  have hsay := app_say conversation chat (entry terminal).1 (entry terminal).2
  cases terminal with
  | final content =>
      rw [entry] at hsay
      rw [ChatApp.finishTurn, ← hsay]
      rfl
  | cancelled =>
      rw [entry] at hsay
      rw [ChatApp.finishTurn, ← hsay]
      rfl
  | timedOut =>
      rw [entry] at hsay
      rw [ChatApp.finishTurn, ← hsay]
      rfl
  | failed reason =>
      rw [entry] at hsay
      rw [ChatApp.finishTurn, ← hsay]
      rfl

theorem app_requestCancel :
    chat.requestCancel.app conversation = (chat.app conversation).cancellationRequested := by
  rw [ChatApp.cancellationRequested, ← app_say]
  rfl

/-! ## Events refine -/

theorem textOf_utf8Text (text : List Char) : textOf (utf8Text text) = String.ofList text := by
  have hbytes : String.fromUTF8? ⟨(utf8Text text).toArray⟩ = some (String.ofList text) := by
    have hdata : (⟨(utf8Text text).toArray⟩ : ByteArray) = (String.ofList text).toByteArray := by
      rw [utf8Text, ← utf8_ofList, utf8, Array.toArray_toList]
    rw [hdata]
    exact dif_pos (String.ofList text).isValidUTF8
  rw [textOf, hbytes]
  rfl

/-- A call of the editor edits the draft. -/
theorem editing_run {α : Type} {edit : Edit α} {a : α} {draft : Draft}
    (h : EStateM.run edit chat.draft.editor = .ok a draft.editor) :
    EStateM.run (editing edit) (chat.app conversation) =
      .ok a ({ chat with draft }.app conversation) := by
  have happ : (chat.app conversation).editor = chat.draft.editor := rfl
  simp [editing, happ, h]
  rfl

/-- A call of the editor without a result. -/
theorem editing_unit {edit : Edit Unit} (op : EditorOp)
    (hop : op.run = do edit; return .unit) :
    EStateM.run (editing edit) (chat.app conversation) =
      .ok () ({ chat with draft := (chat.draft.perform op).2 }.app conversation) := by
  have hrun := run_editor chat.draft op
  rw [hop] at hrun
  refine editing_run conversation chat ?_
  cases hedit : EStateM.run edit chat.draft.editor with
  | ok _ editor =>
      simp [-bind_pure_comp, hedit] at hrun
      rw [hrun.2]
  | error fault editor => simp [-bind_pure_comp, hedit] at hrun

theorem noting_run (notice : String) :
    EStateM.run (noting notice) (chat.app conversation) =
      .ok () ((chat.note notice).app conversation) := by
  rw [app_note]
  rfl

/-- An edit that says nothing, and goes on. -/
theorem edits_run {edit : Edit Unit} (op : EditorOp) (hop : op.run = do edit; return .unit)
    (hnotice : Chat.editNotice op (chat.draft.perform op).1 = none) :
    EStateM.run (do editing edit; return IdleAction.continue) (chat.app conversation) =
      .ok .continue ((chat.edit op).app conversation) := by
  simp [-bind_pure_comp, editing_unit conversation chat op hop, Chat.edit, hnotice]

/-- An edit that may be refused. -/
theorem inserts_run {edit : Edit Bool} {complete : Bool} {draft : Draft} (op : EditorOp)
    (hrun : EStateM.run edit chat.draft.editor = .ok complete draft.editor)
    (hop : chat.draft.perform op = (.accepted complete, draft))
    (hnotice : Chat.editNotice op (.accepted complete) =
      if complete then none else some "Input is limited to 4 KiB") :
    EStateM.run (do
        if !(← editing edit) then
          noting "Input is limited to 4 KiB"
        return IdleAction.continue) (chat.app conversation) =
      .ok .continue ((chat.edit op).app conversation) := by
  have hedit := editing_run conversation chat hrun
  cases complete with
  | true => simp [hedit, Chat.edit, hop, hnotice]
  | false =>
      simp [-bind_pure_comp, hedit, Chat.edit, hop, hnotice, noting_run, Chat.note]


/-- Enter, on a draft. -/
theorem enter_run {pressed : KeyEvent} (hinput : isKeyInput pressed) (hquit : ¬ isCtrlC pressed)
    (hcode : pressed.code = .enter) :
    EStateM.run (handleIdleKey pressed) (chat.app conversation) =
      .ok (chat.press (.key pressed)).1 ((chat.press (.key pressed)).2.app conversation) := by
  have happ : (chat.app conversation).editor.text = utf8Text chat.draft.chars := rfl
  have hquitText : utf8Text chat.draft.chars = utf8 "/quit" ↔
      String.ofList chat.draft.chars = "/quit" := by
    rw [utf8Text, ← utf8_ofList, utf8_injective.eq_iff]
  have htake : EStateM.run InputEditor.take chat.draft.editor =
      .ok (utf8Text chat.draft.chars) Draft.empty.editor := by
    rfl
  have hedit := editing_run conversation chat htake
  have hpress : (Event.key pressed).Presses fun key => key.code = .enter :=
    ⟨pressed, rfl, hinput, hcode⟩
  have hnot : ¬ (Event.key pressed).Presses fun key => isCtrlC key := by
    simp [Event.Presses, hquit]
  rw [handleIdleKey, if_neg hquit, Chat.press, if_neg hnot, if_pos hpress, hcode]
  by_cases htext : String.ofList chat.draft.chars = "/quit"
  · simp [happ, hquitText, htext]
  · by_cases hblank : trim chat.draft.chars = []
    · simp [happ, hquitText, htext, textOf_utf8Text, hblank]
    · simp [-bind_pure_comp, happ, hquitText, htext, textOf_utf8Text, hblank, hedit]

/-- What is pressed, beside Ctrl-C and Enter, edits. -/
theorem press_edit {pressed : KeyEvent} (hinput : isKeyInput pressed) (hquit : ¬ isCtrlC pressed)
    (hcode : pressed.code ≠ .enter) :
    chat.press (.key pressed) =
      match Event.edit? (.key pressed) with
      | some op => (.continue, chat.edit op)
      | none => (.continue, chat) := by
  simp [Chat.press, Event.Presses, Event.Ignored, hinput, hquit, hcode]

theorem handleIdleKey_run {pressed : KeyEvent} (hinput : isKeyInput pressed) :
    EStateM.run (handleIdleKey pressed) (chat.app conversation) =
      .ok (chat.press (.key pressed)).1 ((chat.press (.key pressed)).2.app conversation) := by
  by_cases hquit : isCtrlC pressed
  · have hpress : (Event.key pressed).Presses fun key => isCtrlC key :=
      ⟨pressed, rfl, hinput, hquit⟩
    rw [handleIdleKey, if_pos hquit, Chat.press, if_pos hpress]
    rfl
  by_cases henter : pressed.code = .enter
  · exact enter_run conversation chat hinput hquit henter
  rw [press_edit chat hinput hquit henter, handleIdleKey, if_neg hquit, Event.edit?]
  cases hcode : pressed.code with
  | enter => exact absurd hcode henter
  | esc =>
      have hclear : EStateM.run (editing InputEditor.clear) (chat.app conversation) = _ :=
        editing_unit conversation chat .clear rfl
      simp [-bind_pure_comp, hclear, noting_run, Chat.note, Chat.edit, Chat.editNotice]
  | backspace => exact edits_run conversation chat _ rfl rfl
  | delete => exact edits_run conversation chat _ rfl rfl
  | left => exact edits_run conversation chat _ rfl rfl
  | right => exact edits_run conversation chat _ rfl rfl
  | home => exact edits_run conversation chat _ rfl rfl
  | endKey => exact edits_run conversation chat _ rfl rfl
  | char character =>
      by_cases hmodified : pressed.modifiers.control ∨ pressed.modifiers.alt
      · simp [hmodified]
      · have hinsert := inserts_run conversation chat (.insert character)
          (insert_run chat.draft character) rfl
          (by cases (chat.draft.insert character).1 <;> rfl)
        simp [-bind_pure_comp, hmodified] at hinsert ⊢
        exact hinsert
  | other => rfl

/-- An event while no Turn is active does to the chat what it does to the chat without its
bounds, and does not panic. -/
theorem handleIdleEvent_run (event : Event) :
    EStateM.run (handleIdleEvent event) (chat.app conversation) =
      .ok (chat.press event).1 ((chat.press event).2.app conversation) := by
  cases event with
  | key pressed =>
      by_cases hinput : isKeyInput pressed
      · rw [handleIdleEvent, if_pos hinput]
        exact handleIdleKey_run conversation chat hinput
      · rw [handleIdleEvent, if_neg hinput]
        simp [Chat.press, Event.Presses, Event.Ignored, hinput]
  | paste text =>
      have hinsert := inserts_run conversation chat (.insertText text)
        (insertText_run chat.draft text) rfl (by cases (chat.draft.insertText text).1 <;> rfl)
      rw [handleIdleEvent]
      simp [-bind_pure_comp, Chat.press, Event.Presses, Event.Ignored, Event.edit?] at hinsert ⊢
      exact hinsert
  | other => simp [handleIdleEvent, Chat.press, Event.Presses, Event.Ignored, Event.edit?]

/-- What is submitted is a draft that the Agent takes. -/
theorem press_submit {chat chat' : Chat} {event : Event} {input : String}
    (h : chat.press event = (.submit input, chat')) :
    input = String.ofList chat.draft.chars ∧ validateInput input = .ok () := by
  rw [Chat.press] at h
  dsimp only at h
  split_ifs at h with hquit henter htext hblank hignored
  · cases h
  · cases h
  · cases h
  · have hplain : chat.draft.chars.any isControl = false := by
      rw [List.any_eq_false]
      intro c hc
      rw [chat.draft.plain c hc]
      exact Bool.false_ne_true
    have hfits : ¬ Agent.MAX_INPUT_BYTES < (String.ofList chat.draft.chars).utf8ByteSize := by
      rw [String.utf8ByteSize_ofList, ← length_utf8Text]
      exact Nat.not_lt.mpr chat.draft.fits
    cases h
    refine ⟨rfl, ?_⟩
    rw [validateInput, String.toList_ofList, if_neg hblank, if_neg hfits, hplain]
    rfl
  · cases h
  · cases hedit : event.edit? with
    | none =>
        rw [hedit] at h
        cases h
    | some op =>
        rw [hedit] at h
        cases h

/-! ## The screen refines -/

theorem chatLines_messages : chatLines chat.messages = chat.lines := by
  rw [Chat.lines]
  split_ifs with hempty
  · rw [Chat.messages, List.isEmpty_iff.mp hempty]
    rfl
  · have hmessages : chat.messages ≠ [] := by
      rw [Chat.messages, Ne, List.map_eq_nil_iff, List.rtake, List.drop_eq_nil_iff]
      have hpos : 0 < chat.said.length := by
        rw [List.length_pos_iff]
        exact mt List.isEmpty_iff.mpr hempty
      have hlimit : 0 < MAX_UI_MESSAGES := by decide
      omega
    rw [chatLines_eq hmessages, Chat.messages, List.flatMap_map]

theorem renderApp_app (area : Area) :
    renderApp area (chat.app conversation) = .ok (chat.view conversation area) := by
  have hbefore : EStateM.run InputEditor.prefixText (chat.app conversation).editor =
      .ok (utf8Text chat.draft.before) chat.draft.editor :=
    prefixText_run chat.draft
  have htext : (chat.app conversation).editor.text = utf8Text chat.draft.chars := rfl
  have hlines : chatLines (chat.app conversation).messages = chat.lines := chatLines_messages chat
  have hempty : (utf8Text chat.draft.chars).isEmpty = chat.draft.chars.isEmpty := by
    cases hchars : chat.draft.chars with
    | nil => rfl
    | cons c text =>
        have hpos := String.length_utf8EncodeChar c ▸ Char.utf8Size_pos c
        rw [List.isEmpty_cons, List.isEmpty_eq_false_iff, ← List.length_pos_iff, utf8Text_cons,
          List.length_append]
        omega
  rw [renderApp, Chat.view]
  by_cases hsmall : area.width < MIN_TERMINAL_WIDTH ∨ area.height < MIN_TERMINAL_HEIGHT
  · rw [if_pos hsmall, if_pos hsmall]
  · rw [if_neg hsmall, if_neg hsmall, hbefore]
    dsimp only
    rw [inputContent, htext, hempty, textOf_utf8Text, textOf_utf8Text, hlines]
    rfl

end Paraegox.Tui
