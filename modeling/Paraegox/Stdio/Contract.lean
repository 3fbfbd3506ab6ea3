import Paraegox.Stdio.Adapter

/-!
# What the adapter says, and when

A contract between the adapter and a well-behaved client.  The adapter is idle,
about to answer a cancel that came while it was idle, or driving a Turn; while it
drives one, all it says is about that Turn, and one outcome ends it.  It relies on
commands of its version and session and, while it drives a Turn, on no other Submit
and no cancel of another Turn.  The Agent may answer anything.
-/

namespace Paraegox.Stdio

open Agent (AgentConversationClient SessionId TurnId TurnResult)
open Dialogue (Handles Obeys)

/-- Where the adapter stands. -/
inductive Stage where
  | idle
  | answering (turnId : TurnId)
  | driving (turnId : TurnId)
deriving DecidableEq

/-- A frame the adapter may write there. -/
def Stage.Allows (sessionId : SessionId) (stage : Stage) : OutputFrame → Prop
  | .ready _ _ _ _ => False
  | .cancelResult v session turnId _ =>
      v = PROTOCOL_VERSION ∧ session = sessionId ∧
        (stage = .driving turnId ∨ stage = .answering turnId)
  | .turnTerminal v result =>
      v = PROTOCOL_VERSION ∧ result.sessionId = sessionId ∧ stage = .driving result.turnId
  | .turnError v session turnId message =>
      v = PROTOCOL_VERSION ∧ session = sessionId ∧ stage = .driving turnId ∧
        message.utf8ByteSize ≤ MAX_ERROR_BYTES
  | .stopped v session => v = PROTOCOL_VERSION ∧ session = sessionId ∧ stage = .idle

/-- Where it stands after a frame. -/
def Stage.afterFrame (stage : Stage) : OutputFrame → Stage
  | .cancelResult _ _ _ _ =>
      match stage with
      | .answering _ => .idle
      | _ => stage
  | .turnTerminal _ _ => .idle
  | .turnError _ _ _ _ => .idle
  | _ => stage

/-- Where it stands after a command that was read while idle. -/
def Stage.afterCommand : InputFrame → Stage
  | .submit _ _ turnId _ => .driving turnId
  | .cancel _ _ turnId => .answering turnId
  | .shutdown _ _ => .idle

def InputFrame.sessionId : InputFrame → SessionId
  | .submit _ sessionId _ _ => sessionId
  | .cancel _ sessionId _ => sessionId
  | .shutdown _ sessionId => sessionId

/-- A command of the adapter's version and session. -/
structure InputFrame.Proper (sessionId : SessionId) (command : InputFrame) : Prop where
  version : command.version = PROTOCOL_VERSION
  session : command.sessionId = sessionId

/-- A command that suits the Turn that is driven. -/
def InputFrame.Suits (turnId : TurnId) : InputFrame → Prop
  | .submit _ _ _ _ => False
  | .cancel _ _ cancelled => cancelled = turnId
  | .shutdown _ _ => True

/-- The contract, as an observer that knows where the adapter stands. -/
def contract (sessionId : SessionId) : Monitor Request Request.Answer Stage where
  permits stage
    | .nextCommand => stage = .idle
    | .select turnId => stage = .driving turnId
    | .cancel turnId => stage = .driving turnId
    | .submission turnId => stage = .driving turnId
    | .write frame => stage.Allows sessionId frame
    | .close => True
  expects _
    | ⟨.nextCommand, command⟩ =>
        ∃ frame, (command : Command) = .ok (some frame) ∧ frame.Proper sessionId
    | ⟨.select turnId, selected⟩ =>
        match (selected : Selected) with
        | .submission _ => True
        | .command command =>
            ∃ frame, command = .ok (some frame) ∧ frame.Proper sessionId ∧ frame.Suits turnId
    | ⟨.write _, write⟩ => (write : Except IoError Unit) = .ok ()
    | _ => True
  next stage
    | ⟨.nextCommand, command⟩ =>
        match (command : Command) with
        | .ok (some frame) => Stage.afterCommand frame
        | _ => stage
    | ⟨.write frame, write⟩ =>
        match JsonlOutput.send frame write with
        | .ok () => stage.afterFrame frame
        | .error _ => stage
    | _ => stage

/-- Where the adapter stands at a point. -/
def PointStage (stage : Stage) : Adapter.Point → Prop
  | .opening => False
  | .protocol => stage = .idle
  | .driving turnId _ => stage = .driving turnId
  | .closing (.ok _) => stage = .idle
  | .closing (.error _) => True
  | .exited _ => True

namespace Adapter

variable {adapter : Adapter} {turnId : TurnId} {input : String}

/-- A frame that is allowed is sent, or the run fails. -/
theorem send_keeps {stage : Stage} {frame : OutputFrame}
    (h : stage.Allows adapter.sessionId frame) :
    Handles (contract adapter.sessionId) (fun stage' _ => stage' = stage.afterFrame frame)
      (fun _ _ => True) (send frame) stage := by
  refine Handles.bind (R := fun stage' write => (write : Except IoError Unit) = .ok () ∧
    stage' = match JsonlOutput.send frame write with
      | .ok () => stage.afterFrame frame
      | .error _ => stage)
    (Handles.lift (Obeys.request h fun write hx => ⟨hx, rfl⟩)) ?_
  rintro _ write ⟨-, rfl⟩
  cases JsonlOutput.send frame write with
  | ok _ => exact Handles.pure rfl
  | error _ => exact Handles.throw trivial

/-- Frames about the Turn that is driven. -/
theorem send_cancelResult (status : CancelStatus) :
    Handles (contract adapter.sessionId) (fun stage' _ => stage' = .driving turnId)
      (fun _ _ => True)
      (send (.cancelResult PROTOCOL_VERSION adapter.sessionId turnId status)) (.driving turnId) :=
  send_keeps ⟨rfl, rfl, .inl rfl⟩

theorem send_terminal {result : TurnResult} (hs : result.sessionId = adapter.sessionId)
    (ht : result.turnId = turnId) :
    Handles (contract adapter.sessionId) (fun stage' _ => stage' = .idle) (fun _ _ => True)
      (send (.turnTerminal PROTOCOL_VERSION result)) (.driving turnId) :=
  send_keeps ⟨rfl, hs, by rw [ht]⟩

theorem send_error {message : String} (h : message.utf8ByteSize ≤ MAX_ERROR_BYTES) :
    Handles (contract adapter.sessionId) (fun stage' _ => stage' = .idle) (fun _ _ => True)
      (send (.turnError PROTOCOL_VERSION adapter.sessionId turnId message)) (.driving turnId) :=
  send_keeps ⟨rfl, rfl, rfl, h⟩

/-- The Agent is only asked about the Turn that is driven. -/
theorem await_keeps {request : Request} {fails : Stage → AdapterError → Prop}
    (hq : request = .cancel turnId ∨ request = .submission turnId) :
    Handles (contract adapter.sessionId) (fun stage' _ => stage' = .driving turnId) fails
      (await request) (.driving turnId) := by
  refine Handles.lift (Obeys.request ?_ fun x _ => ?_)
  · rcases hq with rfl | rfl <;> rfl
  · rcases hq with rfl | rfl <;> rfl

theorem finishActiveShutdown_keeps :
    Handles (contract adapter.sessionId) (fun stage' _ => stage' = .idle) (fun _ _ => True)
      (adapter.finishActiveShutdown turnId input) (.driving turnId) := by
  refine Handles.bind (await_keeps (.inl rfl)) ?_
  rintro _ reply rfl
  cases adapter.client.cancel turnId reply with
  | error error =>
      exact Handles.bind (send_error (safeMessage_le error)) fun _ _ h => Handles.pure h
  | ok result =>
      refine Handles.bind (send_cancelResult _) ?_
      rintro _ _ rfl
      cases (cancelStatus result).2 with
      | some terminal => exact Handles.bind (send_terminal rfl rfl) fun _ _ h => Handles.pure h
      | none =>
          refine Handles.bind (await_keeps (.inr rfl)) ?_
          rintro _ confirmed rfl
          cases confirmed with
          | none => exact Handles.bind (send_error (by decide +kernel)) fun _ _ h => Handles.pure h
          | some reply =>
              simp only [Option.map_some]
              cases hresult : adapter.client.submitTurn turnId input adapter.turnTimeout reply with
              | ok result =>
                  obtain ⟨hs, ht⟩ := AgentConversationClient.submitTurn_identity hresult
                  exact Handles.bind (send_terminal hs ht) fun _ _ h => Handles.pure h
              | error error =>
                  exact Handles.bind (send_error (safeMessage_le error))
                    fun _ _ h => Handles.pure h

theorem endTurn_keeps {reply : Agent.Reply} :
    Handles (contract adapter.sessionId) (fun stage' _ => stage' = .idle) (fun _ _ => True)
      (adapter.endTurn turnId input reply) (.driving turnId) := by
  rw [endTurn]
  cases hresult : adapter.client.submitTurn turnId input adapter.turnTimeout reply with
  | ok result =>
      obtain ⟨hs, ht⟩ := AgentConversationClient.submitTurn_identity hresult
      exact Handles.bind (send_terminal hs ht) fun _ _ h => Handles.pure h
  | error error =>
      exact Handles.bind (send_error (safeMessage_le error)) fun _ _ h => Handles.pure h

/-- Where the loop of `drive_turn` goes round or is left. -/
def DriveStage (turnId : TurnId) (stage : Stage) : Option ActiveOutcome → Prop
  | none => stage = .driving turnId
  | some _ => stage = .idle

theorem cancelTurn_keeps :
    Handles (contract adapter.sessionId) (DriveStage turnId) (fun _ _ => True)
      (adapter.cancelTurn turnId) (.driving turnId) := by
  refine Handles.bind (await_keeps (.inl rfl)) ?_
  rintro _ reply rfl
  cases adapter.client.cancel turnId reply with
  | error error =>
      exact Handles.bind (send_error (safeMessage_le error)) fun _ _ h => Handles.pure h
  | ok result =>
      refine Handles.bind (send_cancelResult _) ?_
      rintro _ _ rfl
      cases (cancelStatus result).2 with
      | some terminal => exact Handles.bind (send_terminal rfl rfl) fun _ _ h => Handles.pure h
      | none => exact Handles.pure rfl

theorem activeCommand_keeps {command : InputFrame} (hproper : command.Proper adapter.sessionId)
    (hsuits : command.Suits turnId) :
    Handles (contract adapter.sessionId) (DriveStage turnId) (fun _ _ => True)
      (adapter.activeCommand turnId input command) (.driving turnId) := by
  cases command with
  | submit _ _ _ _ => exact hsuits.elim
  | cancel v requestedSession requestedTurn =>
      obtain rfl : requestedSession = adapter.sessionId := hproper.session
      obtain rfl : requestedTurn = turnId := hsuits
      rw [activeCommand, ensureSession, if_pos rfl]
      dsimp only
      rw [if_neg (not_not.mpr rfl)]
      exact cancelTurn_keeps
  | shutdown v requestedSession =>
      obtain rfl : requestedSession = adapter.sessionId := hproper.session
      rw [activeCommand, ensureSession, if_pos rfl]
      exact Handles.map finishActiveShutdown_keeps fun _ _ h => h

/-- One round of `drive_turn`. -/
theorem driveTurn_keeps :
    Handles (contract adapter.sessionId) (DriveStage turnId) (fun _ _ => True)
      (adapter.driveTurn turnId input) (.driving turnId) := by
  refine Handles.bind (R := fun stage' selected => stage' = .driving turnId ∧
    match (selected : Selected) with
    | .submission _ => True
    | .command command => ∃ frame, command = .ok (some frame) ∧
        frame.Proper adapter.sessionId ∧ frame.Suits turnId)
    (Handles.lift (Obeys.request rfl fun selected hx => ⟨rfl, ?_⟩)) ?_
  · cases selected <;> exact hx
  rintro _ selected ⟨rfl, hselected⟩
  cases selected with
  | submission reply => exact Handles.map endTurn_keeps fun _ _ h => h
  | command command =>
      obtain ⟨frame, rfl, hproper, hsuits⟩ := hselected
      dsimp only
      rw [InputFrame.ensureVersion, if_pos hproper.version]
      exact activeCommand_keeps hproper hsuits

/-- One round of `run_protocol`. -/
theorem runProtocol_keeps :
    Handles (contract adapter.sessionId) PointStage (fun _ _ => True) adapter.runProtocol
      .idle := by
  refine Handles.bind (R := fun stage' command => ∃ frame,
    (command : Command) = .ok (some frame) ∧ frame.Proper adapter.sessionId ∧
      stage' = Stage.afterCommand frame)
    (Handles.lift (Obeys.request rfl fun command hx => ?_)) ?_
  · obtain ⟨frame, rfl, hproper⟩ := hx
    exact ⟨frame, rfl, hproper, rfl⟩
  · rintro _ _ ⟨frame, rfl, hproper, rfl⟩
    refine Handles.bind (Handles.pure (R := fun stage' command =>
      stage' = Stage.afterCommand frame ∧ command = some frame) ⟨rfl, rfl⟩) ?_
    rintro _ _ ⟨rfl, rfl⟩
    dsimp only
    rw [InputFrame.ensureVersion, if_pos hproper.version]
    refine Handles.bind (Handles.pure (R := fun stage' _ =>
      stage' = Stage.afterCommand frame) rfl) ?_
    rintro _ _ rfl
    cases frame with
    | submit v submittedSession turnId text =>
        obtain rfl : submittedSession = adapter.sessionId := hproper.session
        dsimp only
        rw [ensureSession, if_pos rfl]
        exact Handles.pure rfl
    | cancel v requestedSession turnId =>
        obtain rfl : requestedSession = adapter.sessionId := hproper.session
        dsimp only
        rw [ensureSession, if_pos rfl]
        refine Handles.bind (Handles.pure (R := fun stage' _ => stage' = .answering turnId)
          rfl) ?_
        rintro _ _ rfl
        exact Handles.bind (send_keeps ⟨rfl, rfl, .inr rfl⟩) fun _ _ h => Handles.pure h
    | shutdown v requestedSession =>
        obtain rfl : requestedSession = adapter.sessionId := hproper.session
        dsimp only
        rw [ensureSession, if_pos rfl]
        exact Handles.pure rfl

/-- The end of a conversation is announced only when it was graceful. -/
theorem closeConversation_keeps {stage : Stage} {result : Except AdapterError ProtocolOutcome}
    (h : PointStage stage (.closing result)) :
    Handles (contract adapter.sessionId) (fun _ _ => True) (fun _ _ => True)
      (adapter.closeConversation result) stage := by
  refine Handles.bind (R := fun stage' _ => stage' = stage)
    (Handles.lift (Obeys.request trivial fun _ _ => rfl)) ?_
  rintro stage' closeResult rfl
  match result, closeResult with
  | .ok .graceful, .ok () =>
      have hallows : stage'.Allows adapter.sessionId
          (.stopped PROTOCOL_VERSION adapter.sessionId) := ⟨rfl, rfl, h⟩
      exact (send_keeps hallows).mono (fun _ _ _ => trivial) fun _ _ h => h
  | .ok .fatal, .ok () => exact Handles.throw trivial
  | .error _, .ok () => exact Handles.throw trivial
  | .error _, .error _ => exact Handles.throw trivial
  | .ok .graceful, .error _ => exact Handles.throw trivial
  | .ok .fatal, .error _ => exact Handles.throw trivial

/-- The adapter keeps the contract. -/
theorem resume_keeps (stage : Stage) (point : Point) (h : PointStage stage point) :
    (adapter.runTextualStdio.resume point).Obeys (contract adapter.sessionId) PointStage
      stage := by
  cases point with
  | opening => exact h.elim
  | protocol =>
      obtain rfl : stage = .idle := h
      refine Obeys.bind runProtocol_keeps ?_
      intro _ r hr
      cases r with
      | ok point => exact hr
      | error error => exact trivial
  | driving turnId input =>
      obtain rfl : stage = .driving turnId := h
      refine Obeys.bind (Handles.map (T := PointStage) driveTurn_keeps ?_) fun _ r hr => ?_
      · intro stage' outcome ho
        rcases outcome with _ | (_ | _ | _) <;> exact ho
      · cases r with
        | ok point => exact hr
        | error error => exact trivial
  | closing result =>
      refine Obeys.bind (closeConversation_keeps h) ?_
      intro _ r _
      cases r <;> exact trivial
  | exited result => exact trivial

end Adapter

end Paraegox.Stdio
