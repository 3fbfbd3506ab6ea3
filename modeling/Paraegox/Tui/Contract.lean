import Paraegox.Tui.Chat

/-!
# What the terminal chat asks, and when

A contract between the chat and everything around it, which may answer anything.  What was
exchanged so far determines four things: the chat, the Turn that is open, the calls that
set up and leave the terminal and the connection, and the reply that is to be printed.
What the chat may ask next is said in terms of these.
-/

namespace Paraegox.Tui

open Agent (TurnId TurnResult validateInput)
open Dialogue (Handles Obeys)

/-- A question to the surroundings of the chat, with its answer. -/
abbrev Asked := Exchange Request Request.Answer

/-- A Turn that was submitted and has no terminal that the chat knows of. -/
structure OpenTurn where
  turnId : TurnId
  /-- The Agent was asked to cancel it. -/
  cancelled : Bool
deriving DecidableEq

/-- The calls that set up and leave the terminal and the connection. -/
inductive Call where
  | initialized
  | uninitialized
  | restored
  | unrestored
  | forced
  | closed
deriving DecidableEq

/-- What was exchanged so far, as far as it matters. -/
structure Standing where
  chat : Chat := {}
  turn : Option OpenTurn := none
  calls : List Call := []
  reply : Option String := none

variable (conversation : Conversation)

/-- What an exchange does to the chat without its bounds. -/
def Chat.hear (chat : Chat) : Asked → Chat
  | ⟨.event, event⟩ =>
      match nextTerminalEvent (event : NextEvent) with
      | .ok event =>
          match chat.press event with
          | (.submit input, chat) => chat.begin input
          | (_, chat) => chat
      | .error _ => chat
  | ⟨.select turnId input, selected⟩ =>
      match (selected : Selected) with
      | .submission reply =>
          match conversation.client.submitTurn turnId input conversation.timeout reply with
          | .ok result => chat.finish result.terminal
          | .error _ => chat
      | .event _ => chat
  | ⟨.cancel turnId _, reply⟩ =>
      match conversation.client.cancel turnId reply with
      | .ok .cancellationRequested => chat.requestCancel
      | .ok (.alreadyTerminal terminal) => chat.finish terminal
      | .ok .notActive => chat.note "Cancellation is not active yet; still waiting"
      | .error _ => chat
  | _ => chat

/-- What an exchange does to the open Turn. -/
def track (turn : Option OpenTurn) : Asked → Option OpenTurn
  | ⟨.turnId, turnId⟩ => some ⟨turnId, false⟩
  | ⟨.select turnId input, selected⟩ =>
      match (selected : Selected) with
      | .submission reply =>
          match conversation.client.submitTurn turnId input conversation.timeout reply with
          | .ok _ => none
          | .error _ => turn
      | .event _ => turn
  | ⟨.lineTurn turnId input, outcome⟩ =>
      match (outcome : OrCtrlC Agent.Reply) with
      | .branch reply =>
          match conversation.client.submitTurn turnId input conversation.timeout reply with
          | .ok _ => none
          | .error _ => turn
      | .ctrlC _ => turn
  | ⟨.cancel turnId _, reply⟩ =>
      match conversation.client.cancel turnId reply with
      | .ok (.alreadyTerminal _) => none
      | _ => some ⟨turnId, true⟩
  | _ => turn

/-- The call an exchange makes. -/
def call? : Asked → Option Call
  | ⟨.tryInit, initialized⟩ =>
      match (initialized : Except IoError Unit) with
      | .ok () => some .initialized
      | .error _ => some .uninitialized
  | ⟨.tryRestore, restored⟩ =>
      match (restored : Except IoError Unit) with
      | .ok () => some .restored
      | .error _ => some .unrestored
  | ⟨.restore, _⟩ => some .forced
  | ⟨.close _, _⟩ => some .closed
  | _ => none

/-- The reply of a Turn that was submitted as a line, until it is printed. -/
def lineReply (reply : Option String) : Asked → Option String
  | ⟨.lineTurn turnId input, outcome⟩ =>
      match (outcome : OrCtrlC Agent.Reply) with
      | .branch reply =>
          match conversation.client.submitTurn turnId input conversation.timeout reply with
          | .ok ⟨_, _, .final content⟩ => some content
          | _ => none
      | .ctrlC _ => none
  | ⟨.println _, _⟩ => none
  | _ => reply

namespace Standing

variable (standing : Standing)

def next (x : Asked) : Standing where
  chat := standing.chat.hear conversation x
  turn := track conversation standing.turn x
  calls := standing.calls ++ (call? x).toList
  reply := lineReply conversation standing.reply x

/-- The conversation goes on. -/
def Converses : Prop :=
  standing.calls = [.initialized] ∨ ¬ conversation.isTerminal ∧ standing.calls = []

/-- The terminal is as it was found, as far as the chat can do it. -/
def Restored : Prop :=
  standing.calls = [.initialized, .restored] ∨
    standing.calls = [.initialized, .unrestored, .forced] ∨
    standing.calls = [.uninitialized, .forced] ∨
    ¬ conversation.isTerminal ∧ standing.calls = []

/-- The Turn that is open. -/
def Drives (turnId : TurnId) : Prop := ∃ cancelled, standing.turn = some ⟨turnId, cancelled⟩

/-- What the chat may ask. -/
def Permits : Request → Prop
  | .connect deadline => standing.calls = [] ∧ deadline = conversation.timeout
  | .tryInit => conversation.isTerminal ∧ standing.calls = []
  | .tryRestore => standing.calls = [.initialized]
  | .restore => standing.calls = [.uninitialized] ∨ standing.calls = [.initialized, .unrestored]
  | .area => standing.calls = [.initialized]
  | .draw view =>
      standing.calls = [.initialized] ∧ ∃ area, view = standing.chat.view conversation area
  | .event => standing.calls = [.initialized] ∧ standing.turn = none
  | .turnId => standing.Converses conversation ∧ standing.turn = none
  | .select turnId input =>
      standing.calls = [.initialized] ∧ standing.Drives turnId ∧ validateInput input = .ok ()
  | .cancel turnId deadline =>
      standing.Converses conversation ∧ standing.Drives turnId ∧
        deadline = controlTimeout conversation.timeout
  | .line => standing.calls = [] ∧ standing.turn = none
  | .lineTurn turnId _ => standing.calls = [] ∧ standing.Drives turnId
  | .println text => ∃ content, standing.reply = some content ∧ text = "agent> " ++ content
  | .flush => standing.calls = []
  | .close deadline =>
      standing.Restored conversation ∧ deadline = controlTimeout conversation.timeout

/-- No Turn is left behind that the Agent was not asked to cancel, unless something failed. -/
def Settled (result : TuiResult) : Prop :=
  result = .ok () → ∀ turn ∈ standing.turn, turn.cancelled

/-- What holds where the chat stands. -/
def At : Conversation.Point → Prop
  | .opening => standing = {}
  | .fullscreen app =>
      standing.calls = [.initialized] ∧ standing.turn = none ∧
        app = standing.chat.app conversation
  | .driving app turnId input =>
      standing.calls = [.initialized] ∧ standing.Drives turnId ∧
        app = standing.chat.app conversation ∧ validateInput input = .ok ()
  | .restoring result => standing.calls = [.initialized] ∧ standing.Settled result
  | .lines => ¬ conversation.isTerminal ∧ standing.calls = [] ∧ standing.turn = none
  | .closing result => standing.Restored conversation ∧ standing.Settled result
  | .exited result => standing.Settled result ∧
      (standing.calls = [] ∧ result ≠ .ok () ∨
        ∃ before : Standing, before.Restored conversation ∧
          standing.calls = before.calls ++ [.closed])
  | .unwinding _ => False
  | .panicked _ => standing.calls = [] ∧ ¬ conversation.isTerminal

end Standing

/-- The contract of the chat. -/
def contract : Monitor Request Request.Answer Standing where
  permits standing := standing.Permits conversation
  expects _ _ := True
  next standing := standing.next conversation

/-! ## Blocks -/

section

variable {conversation} {standing : Standing} {onFault : Standing → Fault TuiError → Prop}

theorem await_keeps {request : Request} {R : Standing → Request.Answer request → Prop}
    (hq : standing.Permits conversation request)
    (hR : ∀ x, R (standing.next conversation ⟨request, x⟩) x) :
    Handles (contract conversation) R onFault (await request) standing :=
  Handles.lift (Obeys.request hq fun x _ => hR x)

theorem propagate_keeps {ε α : Type} {into : ε → TuiError} {result : Except ε α}
    {R : Standing → α → Prop} (hok : ∀ a, result = .ok a → R standing a)
    (herror : ∀ e, result = .error e → onFault standing (.error (into e))) :
    Handles (contract conversation) R onFault (propagate into result) standing := by
  cases result with
  | ok a => exact Handles.pure (hok a rfl)
  | error e => exact Handles.throw (herror e rfl)

/-- An exchange that changes nothing. -/
theorem next_eq {x : Asked} (hchat : standing.chat.hear conversation x = standing.chat)
    (hturn : track conversation standing.turn x = standing.turn) (hcall : call? x = none)
    (hreply : lineReply conversation standing.reply x = standing.reply) :
    standing.next conversation x = standing := by
  rw [Standing.next, hchat, hturn, hcall, hreply, Option.toList_none, List.append_nil]

theorem drawApp_keeps (hcalls : standing.calls = [.initialized])
    (hfault : ∀ e, onFault standing (.error e)) :
    Handles (contract conversation) (fun standing' _ => standing = standing') onFault
      (Conversation.drawApp (standing.chat.app conversation)) standing := by
  refine Handles.bind (await_keeps (R := fun standing' _ => standing = standing') hcalls
    fun _ => (next_eq rfl rfl rfl rfl).symm) ?_
  rintro _ area rfl
  refine Handles.bind (propagate_keeps (R := fun standing' _ => standing = standing')
    (fun _ _ => rfl) fun e _ => hfault _) ?_
  rintro _ area rfl
  rw [renderApp_app]
  refine Handles.bind (await_keeps (R := fun standing' _ => standing = standing')
    ⟨hcalls, area, rfl⟩ fun _ => (next_eq rfl rfl rfl rfl).symm) ?_
  rintro _ drawn rfl
  exact propagate_keeps (fun _ _ => rfl) fun e _ => hfault _

/-- The Agent answers a cancel, or the conversation fails. -/
theorem cancelTurn_keeps {turnId : TurnId} (hconverses : standing.Converses conversation)
    (hdrives : standing.Drives turnId)
    (hfault : ∀ standing' e, standing'.calls = standing.calls → onFault standing' (.error e)) :
    Handles (contract conversation)
      (fun standing' result => ∃ reply, conversation.client.cancel turnId reply = .ok result ∧
        standing' = standing.next conversation
          ⟨.cancel turnId (controlTimeout conversation.timeout), reply⟩)
      onFault (conversation.cancelTurn turnId) standing := by
  refine Handles.bind (await_keeps (R := fun standing' reply => standing.next conversation
    ⟨.cancel turnId (controlTimeout conversation.timeout), reply⟩ = standing')
    ⟨hconverses, hdrives, rfl⟩ fun _ => rfl) ?_
  rintro _ reply rfl
  exact propagate_keeps (fun result hresult => ⟨reply, hresult, rfl⟩)
    fun e _ => hfault _ _ (List.append_nil _)

/-- So does it answer a submission. -/
theorem submitTurn_keeps {turnId : TurnId} {input : String} {reply : Agent.Reply}
    (hfault : ∀ e, onFault standing (.error e)) :
    Handles (contract conversation)
      (fun standing' terminal => standing = standing' ∧ ∃ result : TurnResult,
        conversation.client.submitTurn turnId input conversation.timeout reply = .ok result ∧
          terminal = result.terminal)
      onFault (conversation.submitTurn turnId input reply) standing := by
  refine Handles.bind (propagate_keeps (R := fun standing' result => standing = standing' ∧
    conversation.client.submitTurn turnId input conversation.timeout reply = .ok result)
    (fun _ h => ⟨rfl, h⟩) fun e _ => hfault _) ?_
  rintro _ result ⟨rfl, hresult⟩
  exact Handles.pure ⟨rfl, result, hresult, rfl⟩

end

/-! ## Rounds -/

/-- Where a fault of a block leads. -/
def Faults (onError : TuiResult → Conversation.Point) (onPanic : String → Conversation.Point)
    (standing : Standing) (fault : Fault TuiError) : Prop :=
  standing.At conversation (Conversation.pointOf onError onPanic (.error fault))

section

variable {conversation} {standing : Standing}

/-- A block leads to a point, whether it fails or not. -/
theorem resume_of {onError : TuiResult → Conversation.Point}
    {onPanic : String → Conversation.Point} {block : Block Conversation.Point}
    (h : Handles (contract conversation) (fun standing' => standing'.At conversation)
      (Faults conversation onError onPanic) block standing) :
    (Conversation.pointOf onError onPanic <$> block.run).Obeys (contract conversation)
      (fun standing' => standing'.At conversation) standing := by
  refine Obeys.bind h ?_
  intro _ result hresult
  cases result with
  | ok point => exact hresult
  | error fault => exact hresult

/-- A Turn that is open after a cancel is one that was cancelled. -/
theorem cancelled_next {turnId : TurnId} {deadline : Agent.Duration} {reply : Agent.Reply}
    {turn : OpenTurn}
    (h : turn ∈ (standing.next conversation ⟨.cancel turnId deadline, reply⟩).turn) :
    turn.cancelled := by
  cases hreply : conversation.client.cancel turnId reply with
  | error _ =>
      simp only [Standing.next, track, hreply] at h
      cases h
      rfl
  | ok result =>
      cases result with
      | alreadyTerminal _ =>
          simp only [Standing.next, track, hreply] at h
          cases h
      | cancellationRequested =>
          simp only [Standing.next, track, hreply] at h
          cases h
          rfl
      | notActive =>
          simp only [Standing.next, track, hreply] at h
          cases h
          rfl

/-- Both results are `Ok` where the combined one is. -/
theorem combine_ok {during : String} {result cleanup : TuiResult}
    (h : combine during result cleanup = .ok ()) : result = .ok () ∧ cleanup = .ok () := by
  cases result with
  | ok _ => exact ⟨rfl, h⟩
  | error _ => cases cleanup <;> cases h

/-- An error where the terminal is set up. -/
theorem faults_restoring (hcalls : standing.calls = [.initialized]) (e : TuiError) :
    Faults conversation .restoring .unwinding standing (.error e) :=
  ⟨hcalls, fun h => absurd h nofun⟩

theorem fullscreenEventLoop_keeps {app : ChatApp}
    (h : standing.At conversation (.fullscreen app)) :
    Handles (contract conversation) (fun standing' => standing'.At conversation)
      (Faults conversation .restoring .unwinding)
      (Conversation.fullscreenEventLoop app) standing := by
  obtain ⟨hcalls, hturn, rfl⟩ := h
  refine Handles.bind (drawApp_keeps hcalls (faults_restoring hcalls)) ?_
  rintro _ - rfl
  refine Handles.bind (await_keeps (R := fun standing' event =>
    standing.next conversation ⟨.event, event⟩ = standing') ⟨hcalls, hturn⟩ fun _ => rfl) ?_
  rintro _ event rfl
  have hcalls' : (standing.next conversation ⟨.event, event⟩).calls = [.initialized] :=
    (List.append_nil _).trans hcalls
  refine Handles.bind (propagate_keeps (R := fun standing' pressed =>
    standing.next conversation ⟨.event, event⟩ = standing' ∧
      nextTerminalEvent event = .ok pressed) (fun _ h => ⟨rfl, h⟩)
    fun e _ => faults_restoring hcalls' _) ?_
  rintro _ pressed ⟨rfl, hpressed⟩
  have hchat : (standing.next conversation ⟨.event, event⟩).chat =
      match standing.chat.press pressed with
      | (.submit input, chat) => chat.begin input
      | (_, chat) => chat := by
    simp only [Standing.next, Chat.hear, hpressed]
  rw [handleIdleEvent_run]
  cases hpress : standing.chat.press pressed with
  | mk action chat =>
      rw [hpress] at hchat
      cases action with
      | «continue» => exact Handles.pure ⟨hcalls', hturn, by rw [hchat]⟩
      | quit =>
          refine Handles.pure ⟨hcalls', fun _ turn h => ?_⟩
          rw [show (standing.next conversation ⟨.event, event⟩).turn = none from hturn] at h
          cases h
      | submit input =>
          refine Handles.bind (await_keeps (R := fun standing' turnId =>
            (standing.next conversation ⟨.event, event⟩).next conversation ⟨.turnId, turnId⟩ =
              standing') ⟨.inl hcalls', hturn⟩ fun _ => rfl) ?_
          rintro _ turnId rfl
          have hbegin : ((standing.next conversation ⟨.event, event⟩).next conversation
              ⟨.turnId, turnId⟩).chat = chat.begin input := hchat
          refine Handles.pure ⟨(List.append_nil _).trans hcalls', ⟨false, rfl⟩, ?_,
            (press_submit hpress).2⟩
          rw [hbegin, app_begin]

theorem driveActiveTurn_keeps {app : ChatApp} {turnId : TurnId} {input : String}
    (h : standing.At conversation (.driving app turnId input)) :
    Handles (contract conversation) (fun standing' => standing'.At conversation)
      (Faults conversation .restoring .unwinding)
      (conversation.driveActiveTurn app turnId input) standing := by
  obtain ⟨hcalls, hdrives, rfl, hinput⟩ := h
  refine Handles.bind (drawApp_keeps hcalls (faults_restoring hcalls)) ?_
  rintro _ - rfl
  refine Handles.bind (await_keeps (R := fun standing' selected =>
    standing.next conversation ⟨.select turnId input, selected⟩ = standing')
    ⟨hcalls, hdrives, hinput⟩ fun _ => rfl) ?_
  rintro _ selected rfl
  have hcalls' : (standing.next conversation ⟨.select turnId input, selected⟩).calls =
      [.initialized] :=
    (List.append_nil _).trans hcalls
  cases selected with
  | submission reply =>
      refine Handles.bind (submitTurn_keeps (faults_restoring hcalls')) ?_
      rintro _ _ ⟨rfl, result, hresult, rfl⟩
      refine Handles.pure ⟨hcalls', ?_, ?_⟩
      · simp only [Standing.next, track, hresult]
      · simp only [Standing.next, Chat.hear, hresult, app_finish]
  | event event =>
      -- the event itself changes nothing
      have hnext : standing = standing.next conversation ⟨.select turnId input, .event event⟩ :=
        (next_eq rfl rfl rfl rfl).symm
      rw [← hnext]
      dsimp only
      refine Handles.bind (propagate_keeps (R := fun standing' _ => standing = standing')
        (fun _ _ => rfl) fun e _ => faults_restoring hcalls _) ?_
      rintro _ event rfl
      have hcancel : Handles (contract conversation) _ (Faults conversation .restoring .unwinding)
          (conversation.cancelTurn turnId) standing :=
        cancelTurn_keeps (.inl hcalls) hdrives fun _ e heq =>
          faults_restoring (heq.trans hcalls) e
      cases handleActiveEvent event with
      | «continue» => exact Handles.pure ⟨hcalls, hdrives, rfl, hinput⟩
      | cancel =>
          refine Handles.bind hcancel ?_
          rintro _ result ⟨reply, hreply, rfl⟩
          have hcalls' := (List.append_nil standing.calls).trans hcalls
          cases result with
          | cancellationRequested =>
              refine Handles.pure ⟨hcalls', ⟨true, ?_⟩, ?_, hinput⟩
              · simp only [Standing.next, track, hreply]
              · simp only [Standing.next, Chat.hear, hreply, app_requestCancel]
          | alreadyTerminal terminal =>
              refine Handles.pure ⟨hcalls', ?_, ?_⟩
              · simp only [Standing.next, track, hreply]
              · simp only [Standing.next, Chat.hear, hreply, app_finish]
          | notActive =>
              refine Handles.pure ⟨hcalls', ⟨true, ?_⟩, ?_, hinput⟩
              · simp only [Standing.next, track, hreply]
              · simp only [Standing.next, Chat.hear, hreply, app_note]
      | quit =>
          refine Handles.bind hcancel ?_
          rintro _ result ⟨reply, hreply, rfl⟩
          refine Handles.pure ⟨(List.append_nil _).trans hcalls, fun _ turn hturn => ?_⟩
          exact cancelled_next hturn

theorem restoreTerminal_keeps {result : TuiResult}
    (h : standing.At conversation (.restoring result)) :
    Handles (contract conversation) (fun standing' => standing'.At conversation)
      (Faults conversation .closing .unwinding)
      (Conversation.restoreTerminal result) standing := by
  obtain ⟨hcalls, hsettled⟩ := h
  refine Handles.bind (await_keeps (R := fun standing' restored =>
    standing.next conversation ⟨.tryRestore, restored⟩ = standing') hcalls fun _ => rfl) ?_
  rintro _ restored rfl
  cases restored with
  | ok _ =>
      refine Handles.pure ⟨.inl ?_, fun hok => ?_⟩
      · simp only [Standing.next, call?, hcalls]
        rfl
      · exact hsettled (combine_ok hok).1
  | error error =>
      refine Handles.bind (await_keeps (R := fun standing' x =>
        (standing.next conversation ⟨.tryRestore, .error error⟩).next conversation ⟨.restore, x⟩ =
          standing') (.inr ?_) fun _ => rfl) ?_
      · simp only [Standing.next, call?, hcalls]
        rfl
      · rintro _ _ rfl
        refine Handles.pure ⟨.inr (.inl ?_), fun hok => ?_⟩
        · simp only [Standing.next, call?, hcalls]
          rfl
        · cases (combine_ok hok).2

/-- An error where there is no terminal. -/
theorem faults_closing (hline : ¬ conversation.isTerminal) (hcalls : standing.calls = [])
    (e : TuiError) : Faults conversation .closing .panicked standing (.error e) :=
  ⟨.inr (.inr (.inr ⟨hline, hcalls⟩)), fun h => absurd h nofun⟩

/-- The end of a conversation line by line. -/
theorem closing_lines (hline : ¬ conversation.isTerminal) (hcalls : standing.calls = [])
    (hturn : ∀ turn ∈ standing.turn, turn.cancelled) :
    standing.At conversation (.closing (.ok ())) :=
  ⟨.inr (.inr (.inr ⟨hline, hcalls⟩)), fun _ => hturn⟩

/-- A reply that a line was answered with is printed. -/
theorem printReply_keeps {content : String} (hline : ¬ conversation.isTerminal)
    (hcalls : standing.calls = []) (hturn : standing.turn = none)
    (hreply : standing.reply = some content) :
    Handles (contract conversation) (fun standing' => standing'.At conversation)
      (Faults conversation .closing .panicked) (Conversation.printReply content) standing := by
  refine Handles.bind (await_keeps (R := fun standing' printed =>
    standing.next conversation ⟨.println ("agent> " ++ content), printed⟩ = standing')
    ⟨content, hreply, rfl⟩ fun _ => rfl) ?_
  rintro _ printed rfl
  have hcalls' := (List.append_nil standing.calls).trans hcalls
  cases printed with
  | error error => exact Handles.throw ⟨hcalls', hline⟩
  | ok _ =>
      refine Handles.bind (await_keeps (R := fun standing' _ => standing'.calls = [] ∧
        standing'.turn = none) hcalls' fun _ => ⟨(List.append_nil _).trans hcalls', hturn⟩) ?_
      rintro standing' flushed ⟨hcalls'', hturn'⟩
      refine Handles.bind (propagate_keeps (R := fun standing'' _ => standing' = standing'')
        (fun _ _ => rfl) fun e _ => faults_closing hline hcalls'' _) ?_
      rintro _ _ rfl
      exact Handles.pure ⟨hline, hcalls'', hturn'⟩

/-- The Turn of a line. -/
theorem driveLine_keeps {turnId : TurnId} {input : String} (hline : ¬ conversation.isTerminal)
    (hcalls : standing.calls = []) (hdrives : standing.Drives turnId) :
    Handles (contract conversation) (fun standing' => standing'.At conversation)
      (Faults conversation .closing .panicked) (conversation.driveLine turnId input) standing := by
  refine Handles.bind (await_keeps (R := fun standing' outcome =>
    standing.next conversation ⟨.lineTurn turnId input, outcome⟩ = standing')
    ⟨hcalls, hdrives⟩ fun _ => rfl) ?_
  rintro _ outcome rfl
  have hcalls' := (List.append_nil standing.calls).trans hcalls
  cases outcome with
  | ctrlC signal =>
      refine Handles.bind (propagate_keeps (R := fun standing' _ =>
        standing.next conversation ⟨.lineTurn turnId input, .ctrlC signal⟩ = standing')
        (fun _ _ => rfl) fun e _ => faults_closing hline hcalls' _) ?_
      rintro _ _ rfl
      refine Handles.bind (cancelTurn_keeps (.inr ⟨hline, hcalls'⟩) hdrives
        fun _ e heq => faults_closing hline (heq.trans hcalls') e) ?_
      rintro _ result ⟨reply, -, rfl⟩
      exact Handles.pure (closing_lines hline ((List.append_nil _).trans hcalls')
        fun _ hturn => cancelled_next hturn)
  | branch reply =>
      refine Handles.bind (submitTurn_keeps (faults_closing hline hcalls')) ?_
      rintro _ _ ⟨rfl, result, hresult, rfl⟩
      obtain ⟨sessionId, turnId', terminal⟩ := result
      cases terminal with
      | final content =>
          refine printReply_keeps hline hcalls' ?_ ?_
          · simp only [Standing.next, track, hresult]
          · simp only [Standing.next, lineReply, hresult]
      | cancelled => exact Handles.throw (faults_closing hline hcalls' _)
      | timedOut => exact Handles.throw (faults_closing hline hcalls' _)
      | failed reason => exact Handles.throw (faults_closing hline hcalls' _)

theorem runLineConversation_keeps (h : standing.At conversation .lines) :
    Handles (contract conversation) (fun standing' => standing'.At conversation)
      (Faults conversation .closing .panicked) conversation.runLineConversation standing := by
  obtain ⟨hline, hcalls, hturn⟩ := h
  have hsettled : ∀ turn ∈ standing.turn, turn.cancelled := by
    intro turn h
    rw [hturn] at h
    cases h
  refine Handles.bind (await_keeps (R := fun standing' _ => standing = standing')
    ⟨hcalls, hturn⟩ fun _ => (next_eq rfl rfl rfl rfl).symm) ?_
  rintro _ line rfl
  cases line with
  | ctrlC signal =>
      refine Handles.bind (propagate_keeps (R := fun standing' _ => standing = standing')
        (fun _ _ => rfl) fun e _ => faults_closing hline hcalls _) ?_
      rintro _ _ rfl
      exact Handles.pure (closing_lines hline hcalls hsettled)
  | branch line =>
      refine Handles.bind (propagate_keeps (R := fun standing' _ => standing = standing')
        (fun _ _ => rfl) fun e _ => faults_closing hline hcalls _) ?_
      rintro _ line rfl
      cases line with
      | none => exact Handles.pure (closing_lines hline hcalls hsettled)
      | some input =>
          dsimp only
          split_ifs with hquit hblank
          · exact Handles.pure (closing_lines hline hcalls hsettled)
          · exact Handles.pure ⟨hline, hcalls, hturn⟩
          · refine Handles.bind (R := fun standing' (turnId : TurnId) =>
              standing'.calls = [] ∧ standing'.Drives turnId)
              (await_keeps ⟨.inr ⟨hline, hcalls⟩, hturn⟩
                fun _ => ⟨(List.append_nil _).trans hcalls, false, rfl⟩) ?_
            rintro standing' turnId ⟨hcalls', hdrives⟩
            exact driveLine_keeps hline hcalls' hdrives

/-! ## The conversation -/

theorem openConversation_keeps :
    Handles (contract conversation) (fun standing' => standing'.At conversation)
      (Faults conversation .exited .panicked) conversation.openConversation {} := by
  refine Handles.bind (await_keeps (R := fun standing' _ => ({} : Standing) = standing')
    ⟨rfl, rfl⟩ fun _ => rfl) ?_
  rintro _ connected rfl
  refine Handles.bind (propagate_keeps (R := fun standing' _ => ({} : Standing) = standing')
    (fun _ _ => rfl) fun e _ => ⟨fun h => absurd h nofun, .inl ⟨rfl, nofun⟩⟩) ?_
  rintro _ _ rfl
  split_ifs with hterminal
  · refine Handles.bind (await_keeps (R := fun standing' initialized =>
      Standing.next conversation {} ⟨.tryInit, initialized⟩ = standing') ⟨hterminal, rfl⟩
      fun _ => rfl) ?_
    rintro _ initialized rfl
    cases initialized with
    | ok _ => exact Handles.pure ⟨rfl, rfl, (app_empty conversation).symm⟩
    | error error =>
        refine Handles.bind (await_keeps (R := fun standing' _ =>
          standing'.calls = [.uninitialized, .forced]) (.inl rfl) fun _ => rfl) ?_
        intro standing' _ hcalls
        exact Handles.pure ⟨.inr (.inr (.inl hcalls)), fun h => absurd h nofun⟩
  · exact Handles.pure ⟨hterminal, rfl, rfl⟩

theorem closeConversation_keeps {result : TuiResult}
    (h : standing.At conversation (.closing result)) :
    Handles (contract conversation) (fun standing' => standing'.At conversation)
      (Faults conversation .exited .panicked) (conversation.closeConversation result)
      standing := by
  obtain ⟨hrestored, hsettled⟩ := h
  refine Handles.bind (await_keeps (R := fun standing' closed =>
    standing.next conversation ⟨.close (controlTimeout conversation.timeout), closed⟩ = standing')
    ⟨hrestored, rfl⟩ fun _ => rfl) ?_
  rintro _ closed rfl
  exact Handles.pure ⟨fun hok => hsettled (combine_ok hok).1, .inr ⟨standing, hrestored, rfl⟩⟩

/-- The chat keeps the contract. -/
theorem resume_keeps (standing : Standing) (point : Conversation.Point)
    (h : standing.At conversation point) :
    (conversation.runTui.resume point).Obeys (contract conversation)
      (fun standing' => standing'.At conversation) standing := by
  cases point with
  | opening =>
      obtain rfl : standing = {} := h
      exact resume_of openConversation_keeps
  | fullscreen app => exact resume_of (fullscreenEventLoop_keeps h)
  | driving app turnId input => exact resume_of (driveActiveTurn_keeps h)
  | restoring result => exact resume_of (restoreTerminal_keeps h)
  | lines => exact resume_of (runLineConversation_keeps h)
  | closing result => exact resume_of (closeConversation_keeps h)
  | exited result => exact h
  | unwinding message => exact h.elim
  | panicked message => exact h

end

end Paraegox.Tui
