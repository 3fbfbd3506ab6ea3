import Paraegox.Stdio.Adapter

/-!
# One outcome for each Submit

A ledger notes which Submits were accepted and which outcomes were written.  The
blocks of the adapter are specified by what they add to it: `finish_active_shutdown`
adds one outcome on each of its ways out, and every other exit either adds one of
its own or goes through it.
-/

namespace Paraegox.Stdio

open Agent (AgentConversationClient SessionId TurnId TurnResult TurnTerminal)
open Dialogue (Handles Obeys Ends)

/-! ## What is read off an exchange -/

/-- The command of an exchange, at either place where commands are read. -/
def commandOf : Exchange Request Request.Answer → Option Command
  | ⟨.nextCommand, command⟩ => some command
  | ⟨.select _, selected⟩ =>
      match (selected : Selected) with
      | .submission _ => none
      | .command command => some command
  | _ => none

/-- A Submit of the right version and session. -/
def InputFrame.accepted? (sessionId : SessionId) : InputFrame → Option TurnId
  | .submit v submitted turnId _ =>
      if v = PROTOCOL_VERSION ∧ submitted = sessionId then some turnId else none
  | _ => none

def acceptedSubmit (sessionId : SessionId) (x : Exchange Request Request.Answer) : Option TurnId :=
  match commandOf x with
  | some (.ok (some command)) => command.accepted? sessionId
  | _ => none

/-- The write of a frame succeeds. -/
def writeSucceeds : Exchange Request Request.Answer → Prop
  | ⟨.write frame, write⟩ => JsonlOutput.send frame write = .ok ()
  | _ => True

instance : DecidablePred writeSucceeds := fun x =>
  match x with
  | ⟨.write frame, write⟩ =>
      inferInstanceAs (Decidable (JsonlOutput.send frame (write : Except IoError Unit) = .ok ()))
  | ⟨.nextCommand, _⟩ => .isTrue trivial
  | ⟨.select _, _⟩ => .isTrue trivial
  | ⟨.cancel _, _⟩ => .isTrue trivial
  | ⟨.submission _, _⟩ => .isTrue trivial
  | ⟨.close, _⟩ => .isTrue trivial

/-- The Turn a frame is the outcome of, with its session. -/
def OutputFrame.outcome? : OutputFrame → Option (SessionId × TurnId)
  | .turnTerminal _ result => some (result.sessionId, result.turnId)
  | .turnError _ sessionId turnId _ => some (sessionId, turnId)
  | _ => none

/-- The outcome an exchange writes. -/
def writtenOutcome : Exchange Request Request.Answer → Option (SessionId × TurnId)
  | ⟨.write frame, write⟩ =>
      match JsonlOutput.send frame write with
      | .ok () => frame.outcome?
      | .error _ => none
  | _ => none

/-! ## The ledger -/

structure Ledger where
  accepted : List TurnId
  outcomes : List (SessionId × TurnId)

namespace Ledger

variable (sessionId : SessionId) (ledger : Ledger)

def submit (turnId : TurnId) : Ledger := { ledger with accepted := ledger.accepted ++ [turnId] }

def settle (turnId : TurnId) : Ledger :=
  { ledger with outcomes := ledger.outcomes ++ [(sessionId, turnId)] }

/-- The ledger after a command was read. -/
def read (command : InputFrame) : Ledger :=
  { ledger with accepted := ledger.accepted ++ (command.accepted? sessionId).toList }

/-- The ledger after `next_command` returned. -/
def readCommand : Command → Ledger
  | .ok (some command) => ledger.read sessionId command
  | .ok none => ledger
  | .error _ => ledger

/-- The ledger after `select!` took a branch. -/
def readSelected : Selected → Ledger
  | .submission _ => ledger
  | .command command => ledger.readCommand sessionId command

/-- Every accepted Submit has its outcome, in order. -/
def Settled : Prop := ledger.outcomes = ledger.accepted.map (sessionId, ·)

/-- The accepted Submits and the outcomes are the same up to their order. -/
def Balanced : Prop := ledger.outcomes.Perm (ledger.accepted.map (sessionId, ·))

/-- All but the last accepted Submit have their outcome. -/
def Owes (turnId : TurnId) : Prop := ∃ before : Ledger,
  before.Settled sessionId ∧ ledger = before.submit turnId

variable {sessionId ledger} {turnId turnId' : TurnId}

theorem Settled.balanced (h : ledger.Settled sessionId) : ledger.Balanced sessionId := by
  rw [Balanced]
  rw [h]

theorem Owes.settle (h : ledger.Owes sessionId turnId) :
    (ledger.settle sessionId turnId).Settled sessionId := by
  obtain ⟨before, hbefore, rfl⟩ := h
  simpa [Settled, Ledger.settle, submit] using hbefore

/-- The outcomes of two Submits may be written in the other order. -/
theorem Owes.settle_crossed (h : ledger.Owes sessionId turnId) :
    (((ledger.submit turnId').settle sessionId turnId').settle sessionId turnId).Balanced
      sessionId := by
  obtain ⟨before, hbefore, rfl⟩ := h
  simp only [Balanced, Ledger.settle, submit, List.append_assoc, List.map_append]
  rw [hbefore]
  exact (List.Perm.swap _ _ []).append_left _

end Ledger

/-- The ledger kept, with nothing left open where `run_protocol` reads. -/
def ledgerMonitor (sessionId : SessionId) : Monitor Request Request.Answer Ledger where
  permits ledger request := request = .nextCommand → ledger.Settled sessionId
  expects _ x := writeSucceeds x
  next ledger x :=
    { accepted := ledger.accepted ++ (acceptedSubmit sessionId x).toList
      outcomes := ledger.outcomes ++ (writtenOutcome x).toList }

theorem ledgerMonitor_after (sessionId : SessionId) (ledger : Ledger)
    (xs : List (Exchange Request Request.Answer)) :
    (ledgerMonitor sessionId).after ledger xs =
      { accepted := ledger.accepted ++ xs.filterMap (acceptedSubmit sessionId)
        outcomes := ledger.outcomes ++ xs.filterMap writtenOutcome } := by
  induction xs generalizing ledger with
  | nil => simp [Monitor.after]
  | cons x xs ih =>
      rw [Monitor.after, List.foldl_cons]
      refine (ih _).trans ?_
      cases ha : acceptedSubmit sessionId x <;> cases ho : writtenOutcome x <;>
        simp [ledgerMonitor, ha, ho]

namespace Adapter

variable {adapter : Adapter} {ledger : Ledger} {turnId : TurnId} {input : String}

/-! ## The blocks -/

/-- Waiting for the Agent leaves the ledger as it is. -/
theorem await_quiet {request : Request} {fails : Ledger → AdapterError → Prop}
    (hq : (∃ turnId, request = .cancel turnId) ∨ (∃ turnId, request = .submission turnId) ∨
      request = .close) :
    Handles (ledgerMonitor adapter.sessionId) (fun ledger' _ => ledger' = ledger) fails
      (await request) ledger := by
  refine Handles.lift (Obeys.request ?_ fun x _ => ?_)
  · rintro rfl
    rcases hq with ⟨_, h⟩ | ⟨_, h⟩ | h <;> cases h
  · rcases hq with ⟨_, rfl⟩ | ⟨_, rfl⟩ | rfl <;>
      simp [ledgerMonitor, acceptedSubmit, commandOf, writtenOutcome]

/-- A frame that is sent adds its outcome, if it is one. -/
theorem send_handles (frame : OutputFrame) {fails : Ledger → AdapterError → Prop} :
    Handles (ledgerMonitor adapter.sessionId)
      (fun ledger' _ => ledger' =
        { ledger with outcomes := ledger.outcomes ++ frame.outcome?.toList }) fails
      (send frame) ledger := by
  refine Handles.bind (R := fun ledger' write => JsonlOutput.send frame write = .ok () ∧
    ledger' = { ledger with outcomes := ledger.outcomes ++ frame.outcome?.toList })
    (Handles.lift (Obeys.request (fun h => by cases h) fun write hx => ⟨hx, ?_⟩)) ?_
  · have hx : JsonlOutput.send frame write = .ok () := hx
    simp [ledgerMonitor, acceptedSubmit, commandOf, writtenOutcome, hx]
  · rintro ledger' write ⟨hwrite, rfl⟩
    rw [hwrite]
    exact Handles.pure rfl

/-- A frame that is an outcome settles its Turn. -/
theorem send_outcome {frame : OutputFrame} (h : frame.outcome? = some (adapter.sessionId, turnId))
    {fails : Ledger → AdapterError → Prop} :
    Handles (ledgerMonitor adapter.sessionId)
      (fun ledger' _ => ledger' = ledger.settle adapter.sessionId turnId) fails
      (send frame) ledger :=
  (send_handles frame).mono (by simp [h, Ledger.settle]) fun _ _ he => he

/-- Any other frame leaves the ledger as it is. -/
theorem send_quiet {frame : OutputFrame} (h : frame.outcome? = none)
    {fails : Ledger → AdapterError → Prop} :
    Handles (ledgerMonitor adapter.sessionId) (fun ledger' _ => ledger' = ledger) fails
      (send frame) ledger :=
  (send_handles frame).mono (by simp [h]) fun _ _ he => he

/-- What the client returns for a Turn is that Turn's outcome. -/
theorem submitTurn_outcome {reply : Agent.Reply} {result : TurnResult}
    (h : adapter.client.submitTurn turnId input adapter.turnTimeout reply = .ok result) :
    (OutputFrame.turnTerminal PROTOCOL_VERSION result).outcome? =
      some (adapter.sessionId, turnId) := by
  obtain ⟨hs, ht⟩ := AgentConversationClient.submitTurn_identity h
  rw [OutputFrame.outcome?, hs, ht]
  rfl

theorem finishActiveShutdown_handles {fails : Ledger → AdapterError → Prop} :
    Handles (ledgerMonitor adapter.sessionId)
      (fun ledger' _ => ledger' = ledger.settle adapter.sessionId turnId) fails
      (adapter.finishActiveShutdown turnId input) ledger := by
  refine Handles.bind (await_quiet (.inl ⟨turnId, rfl⟩)) ?_
  rintro _ reply rfl
  cases adapter.client.cancel turnId reply with
  | error error => exact Handles.bind (send_outcome rfl) fun _ _ h => Handles.pure h
  | ok result =>
      refine Handles.bind (send_quiet rfl) ?_
      rintro _ _ rfl
      cases (cancelStatus result).2 with
      | some terminal => exact Handles.bind (send_outcome rfl) fun _ _ h => Handles.pure h
      | none =>
          refine Handles.bind (await_quiet (.inr (.inl ⟨turnId, rfl⟩))) ?_
          rintro _ confirmed rfl
          cases confirmed with
          | none => exact Handles.bind (send_outcome rfl) fun _ _ h => Handles.pure h
          | some reply =>
              simp only [Option.map_some]
              cases hresult : adapter.client.submitTurn turnId input adapter.turnTimeout reply with
              | ok result =>
                  exact Handles.bind (send_outcome (submitTurn_outcome hresult))
                    fun _ _ h => Handles.pure h
              | error error => exact Handles.bind (send_outcome rfl) fun _ _ h => Handles.pure h

theorem failActiveProtocol_handles {α : Type} {error : IoError} {post : Ledger → α → Prop} :
    Handles (ledgerMonitor adapter.sessionId) post
      (fun ledger' _ => ledger' = ledger.settle adapter.sessionId turnId)
      (adapter.failActiveProtocol turnId input error) ledger := by
  refine Handles.bind (Handles.attempt
    (T := fun ledger' _ => ledger' = ledger.settle adapter.sessionId turnId)
    finishActiveShutdown_handles) ?_
  rintro _ _ rfl
  exact Handles.throw rfl

theorem endTurn_handles {reply : Agent.Reply} {fails : Ledger → AdapterError → Prop} :
    Handles (ledgerMonitor adapter.sessionId)
      (fun ledger' _ => ledger' = ledger.settle adapter.sessionId turnId) fails
      (adapter.endTurn turnId input reply) ledger := by
  rw [endTurn]
  cases hresult : adapter.client.submitTurn turnId input adapter.turnTimeout reply with
  | ok result =>
      exact Handles.bind (send_outcome (submitTurn_outcome hresult)) fun _ _ h => Handles.pure h
  | error error => exact Handles.bind (send_outcome rfl) fun _ _ h => Handles.pure h

/-- After a cancel of the driven Turn, it either goes on or has its outcome. -/
theorem cancelTurn_handles {fails : Ledger → AdapterError → Prop} :
    Handles (ledgerMonitor adapter.sessionId)
      (fun ledger' outcome => outcome = none ∧ ledger' = ledger ∨
        outcome.isSome ∧ ledger' = ledger.settle adapter.sessionId turnId) fails
      (adapter.cancelTurn turnId) ledger := by
  refine Handles.bind (await_quiet (.inl ⟨turnId, rfl⟩)) ?_
  rintro _ reply rfl
  cases adapter.client.cancel turnId reply with
  | error error => exact Handles.bind (send_outcome rfl) fun _ _ h => Handles.pure (.inr ⟨rfl, h⟩)
  | ok result =>
      refine Handles.bind (send_quiet rfl) ?_
      rintro _ _ rfl
      cases (cancelStatus result).2 with
      | some terminal =>
          exact Handles.bind (send_outcome rfl) fun _ _ h => Handles.pure (.inr ⟨rfl, h⟩)
      | none => exact Handles.pure (.inl ⟨rfl, rfl⟩)

/-! ## The loops -/

/-- The ledger where the loop of `drive_turn` goes round or is left. -/
def DriveEnds (sessionId : SessionId) (turnId : TurnId) (ledger : Ledger) :
    Option ActiveOutcome → Prop
  | none => ledger.Owes sessionId turnId
  | some .continue => ledger.Settled sessionId
  | some .gracefulShutdown => ledger.Balanced sessionId
  | some .fatal => ledger.Balanced sessionId

theorem DriveEnds.of_settled (h : ledger.Settled adapter.sessionId) (outcome : ActiveOutcome) :
    DriveEnds adapter.sessionId turnId ledger (some outcome) := by
  cases outcome with
  | «continue» => exact h
  | gracefulShutdown => exact h.balanced
  | fatal => exact h.balanced

theorem ensureSession_ok {expected actual : SessionId}
    (h : ensureSession expected actual = .ok ()) : actual = expected := by
  rw [ensureSession] at h
  split_ifs at h with hs
  exact hs.symm

theorem ensureSession_error {expected actual : SessionId} {error : IoError}
    (h : ensureSession expected actual = .error error) : actual ≠ expected := by
  rw [ensureSession] at h
  split_ifs at h with hs
  exact fun he => hs he.symm

@[simp] theorem read_cancel (v : UInt8) (requested : SessionId) (requestedTurn : TurnId) :
    ledger.read adapter.sessionId (.cancel v requested requestedTurn) = ledger := by
  simp [Ledger.read, InputFrame.accepted?]

@[simp] theorem read_shutdown (v : UInt8) (requested : SessionId) :
    ledger.read adapter.sessionId (.shutdown v requested) = ledger := by
  simp [Ledger.read, InputFrame.accepted?]

/-- A Submit that passes both checks is accepted. -/
theorem read_submit {submitted : SessionId} {text : String}
    (hs : ensureSession adapter.sessionId submitted = .ok ()) :
    ledger.read adapter.sessionId (.submit PROTOCOL_VERSION submitted turnId text) =
      ledger.submit turnId := by
  simp [Ledger.read, InputFrame.accepted?, ensureSession_ok hs, Ledger.submit]

/-- A Submit of another session is not accepted. -/
theorem read_submit_error {v : UInt8} {submitted : SessionId} {text : String} {error : IoError}
    (hs : ensureSession adapter.sessionId submitted = .error error) :
    ledger.read adapter.sessionId (.submit v submitted turnId text) = ledger := by
  simp [Ledger.read, InputFrame.accepted?, ensureSession_error hs]

/-- A command that is refused ends the run with the driven Turn settled. -/
theorem failActiveProtocol_ends {error : IoError} (h : ledger.Owes adapter.sessionId turnId)
    {post : Ledger → Option ActiveOutcome → Prop} :
    Handles (ledgerMonitor adapter.sessionId) post
      (fun ledger' _ => ledger'.Balanced adapter.sessionId)
      (adapter.failActiveProtocol turnId input error) ledger := by
  refine failActiveProtocol_handles.mono (fun _ _ hp => hp) ?_
  rintro _ _ rfl
  exact h.settle.balanced

theorem finishActiveShutdown_ends (h : ledger.Owes adapter.sessionId turnId)
    {fails : Ledger → AdapterError → Prop} :
    Handles (ledgerMonitor adapter.sessionId) (DriveEnds adapter.sessionId turnId) fails
      (some <$> adapter.finishActiveShutdown turnId input) ledger := by
  refine Handles.map finishActiveShutdown_handles ?_
  rintro _ outcome rfl
  exact .of_settled h.settle outcome

theorem activeCommand_ends (h : ledger.Owes adapter.sessionId turnId) {command : InputFrame}
    (hv : command.version = PROTOCOL_VERSION) :
    Handles (ledgerMonitor adapter.sessionId) (DriveEnds adapter.sessionId turnId)
      (fun ledger' _ => ledger'.Balanced adapter.sessionId)
      (adapter.activeCommand turnId input command)
      (ledger.read adapter.sessionId command) := by
  cases command with
  | cancel v requestedSession requestedTurn =>
      rw [read_cancel, activeCommand]
      cases hs : ensureSession adapter.sessionId requestedSession with
      | error error => exact failActiveProtocol_ends h
      | ok _ =>
          dsimp only
          split_ifs
          · refine Handles.bind (send_quiet rfl) ?_
            rintro _ _ rfl
            exact Handles.pure h
          · refine cancelTurn_handles.mono ?_ fun _ _ hf => hf
            rintro ledger' outcome (⟨rfl, rfl⟩ | ⟨hsome, rfl⟩)
            · exact h
            · obtain ⟨outcome, rfl⟩ := Option.isSome_iff_exists.mp hsome
              exact .of_settled h.settle outcome
  | submit v submittedSession submittedTurn text =>
      obtain rfl : v = PROTOCOL_VERSION := hv
      rw [activeCommand]
      cases hs : ensureSession adapter.sessionId submittedSession with
      | error error =>
          rw [read_submit_error hs]
          exact failActiveProtocol_ends h
      | ok _ =>
          rw [read_submit hs]
          -- the Submit that came too early is answered first
          refine Handles.bind (send_outcome rfl) ?_
          rintro _ _ rfl
          refine Handles.bind finishActiveShutdown_handles ?_
          rintro _ _ rfl
          exact Handles.pure h.settle_crossed
  | shutdown v requestedSession =>
      rw [read_shutdown, activeCommand]
      cases hs : ensureSession adapter.sessionId requestedSession with
      | error error => exact failActiveProtocol_ends h
      | ok _ => exact finishActiveShutdown_ends h

/-- A command of another version is not accepted. -/
theorem read_of_version {command : InputFrame} {error : IoError}
    (h : command.ensureVersion = .error error) :
    ledger.read adapter.sessionId command = ledger := by
  rw [InputFrame.ensureVersion] at h
  split_ifs at h with hv
  cases command with
  | submit v _ _ _ =>
      have hv : v ≠ PROTOCOL_VERSION := hv
      simp [Ledger.read, InputFrame.accepted?, hv]
  | cancel _ _ _ => simp [Ledger.read, InputFrame.accepted?]
  | shutdown _ _ => simp [Ledger.read, InputFrame.accepted?]

theorem version_of_ok {command : InputFrame} (h : command.ensureVersion = .ok ()) :
    command.version = PROTOCOL_VERSION := by
  rw [InputFrame.ensureVersion] at h
  split_ifs at h with hv
  exact hv

/-- One round of `drive_turn`. -/
theorem driveTurn_ends (h : ledger.Owes adapter.sessionId turnId) :
    Handles (ledgerMonitor adapter.sessionId) (DriveEnds adapter.sessionId turnId)
      (fun ledger' _ => ledger'.Balanced adapter.sessionId)
      (adapter.driveTurn turnId input) ledger := by
  refine Handles.bind (R := fun ledger' selected =>
    ledger' = ledger.readSelected adapter.sessionId selected)
    (Handles.lift (Obeys.request (fun hq => by cases hq) fun selected _ => ?_)) ?_
  · rcases selected with _ | _ | _ | command <;>
      simp [ledgerMonitor, acceptedSubmit, commandOf, writtenOutcome, Ledger.readSelected,
        Ledger.readCommand, Ledger.read]
  · rintro _ selected rfl
    rcases selected with reply | error | _ | command
    · refine Handles.map endTurn_handles ?_
      rintro _ outcome rfl
      exact .of_settled h.settle outcome
    · exact failActiveProtocol_ends h
    · exact finishActiveShutdown_ends h
    · dsimp only [Ledger.readSelected, Ledger.readCommand]
      cases hv : command.ensureVersion with
      | error error =>
          rw [read_of_version hv]
          exact failActiveProtocol_ends h
      | ok _ => exact activeCommand_ends h (version_of_ok hv)

/-- The ledger at a point. -/
def PointLedger (sessionId : SessionId) (ledger : Ledger) : Point → Prop
  | .opening => ledger.Settled sessionId
  | .protocol => ledger.Settled sessionId
  | .driving turnId _ => ledger.Owes sessionId turnId
  | .closing _ => ledger.Balanced sessionId
  | .exited _ => ledger.Balanced sessionId

theorem io_ends {α : Type} {result : Except IoError α} {post : Ledger → α → Prop}
    {fails : Ledger → AdapterError → Prop} (hok : ∀ a, result = .ok a → post ledger a)
    (herror : ∀ error, result = .error error → fails ledger (.io error)) :
    Handles (ledgerMonitor adapter.sessionId) post fails (io result) ledger := by
  cases result with
  | ok a => exact Handles.pure (hok a rfl)
  | error error => exact Handles.throw (herror error rfl)

/-- One round of `run_protocol`. -/
theorem runProtocol_ends (h : ledger.Settled adapter.sessionId) :
    Handles (ledgerMonitor adapter.sessionId) (PointLedger adapter.sessionId)
      (fun ledger' _ => ledger'.Balanced adapter.sessionId) adapter.runProtocol ledger := by
  refine Handles.bind (R := fun ledger' command =>
    ledger' = ledger.readCommand adapter.sessionId command)
    (Handles.lift (Obeys.request (fun _ => h) fun command _ => ?_)) ?_
  · rcases command with _ | _ | command <;>
      simp [ledgerMonitor, acceptedSubmit, commandOf, writtenOutcome, Ledger.readCommand,
        Ledger.read]
  · rintro _ command rfl
    refine Handles.bind (R := fun ledger' command =>
      ledger' = ledger.readCommand adapter.sessionId (.ok command)) (io_ends ?_ ?_) ?_
    · rintro command rfl
      rfl
    · rintro error rfl
      exact h.balanced
    · rintro _ command rfl
      cases command with
      | none => exact Handles.pure h.balanced
      | some command =>
          refine Handles.bind (R := fun ledger' _ => command.version = PROTOCOL_VERSION ∧
            ledger' = ledger.read adapter.sessionId command)
            (io_ends (fun _ hv => ⟨version_of_ok hv, rfl⟩) fun error hv => ?_) ?_
          · rw [Ledger.readCommand, read_of_version hv]
            exact h.balanced
          · rintro _ _ ⟨hv, rfl⟩
            cases command with
            | submit v submittedSession turnId text =>
                obtain rfl : v = PROTOCOL_VERSION := hv
                refine Handles.bind (R := fun ledger' _ => ledger' = ledger.submit turnId)
                  (io_ends (fun _ hs => read_submit hs) fun error hs => ?_) ?_
                · rw [read_submit_error hs]
                  exact h.balanced
                · rintro _ _ rfl
                  exact Handles.pure ⟨ledger, h, rfl⟩
            | cancel v requestedSession requestedTurn =>
                rw [read_cancel]
                refine Handles.bind (R := fun ledger' _ => ledger' = ledger)
                  (io_ends (fun _ _ => rfl) fun _ _ => h.balanced) ?_
                rintro _ _ rfl
                refine Handles.bind (send_quiet rfl) ?_
                rintro _ _ rfl
                exact Handles.pure h
            | shutdown v requestedSession =>
                rw [read_shutdown]
                refine Handles.bind (R := fun ledger' _ => ledger' = ledger)
                  (io_ends (fun _ _ => rfl) fun _ _ => h.balanced) ?_
                rintro _ _ rfl
                exact Handles.pure h.balanced

/-- What is before the protocol leaves the ledger as it is. -/
theorem openConversation_ends (h : ledger.Settled adapter.sessionId) :
    Handles (ledgerMonitor adapter.sessionId) (PointLedger adapter.sessionId)
      (fun ledger' _ => ledger'.Balanced adapter.sessionId) adapter.openConversation ledger := by
  rw [openConversation]
  refine Handles.bind (R := fun ledger' _ => ledger' = ledger)
    (io_ends (fun _ _ => rfl) fun _ _ => h.balanced) ?_
  rintro ledger turnTimeoutMs rfl
  refine Handles.bind (Handles.attempt (T := fun ledger' _ => ledger' = ledger)
    (send_quiet rfl)) ?_
  rintro _ result rfl
  cases result with
  | ok _ => exact Handles.pure h
  | error error =>
      refine Handles.bind (await_quiet (.inr (.inr rfl))) ?_
      rintro _ _ rfl
      exact Handles.throw h.balanced

/-- And so does what is after it. -/
theorem closeConversation_ends {result : Except AdapterError ProtocolOutcome}
    (h : ledger.Balanced adapter.sessionId) :
    Handles (ledgerMonitor adapter.sessionId) (fun ledger' _ => ledger'.Balanced adapter.sessionId)
      (fun ledger' _ => ledger'.Balanced adapter.sessionId)
      (adapter.closeConversation result) ledger := by
  refine Handles.bind (await_quiet (.inr (.inr rfl))) ?_
  rintro _ closeResult rfl
  match result, closeResult with
  | .ok .graceful, .ok () =>
      refine (send_quiet rfl).mono ?_ fun _ _ hf => hf
      rintro _ _ rfl
      exact h
  | .ok .fatal, .ok () => exact Handles.throw h
  | .error _, .ok () => exact Handles.throw h
  | .error _, .error _ => exact Handles.throw h
  | .ok .graceful, .error _ => exact Handles.throw h
  | .ok .fatal, .error _ => exact Handles.throw h

/-- Every point restores the ledger it stands for. -/
theorem resume_obeys (ledger : Ledger) (point : Point)
    (h : PointLedger adapter.sessionId ledger point) :
    (adapter.runTextualStdio.resume point).Obeys (ledgerMonitor adapter.sessionId)
      (PointLedger adapter.sessionId) ledger := by
  cases point with
  | opening =>
      refine Obeys.bind (openConversation_ends h) ?_
      intro _ r hr
      cases r <;> exact hr
  | protocol =>
      refine Obeys.bind (runProtocol_ends h) ?_
      intro _ r hr
      cases r <;> exact hr
  | driving turnId input =>
      refine Obeys.bind (Handles.map (T := PointLedger adapter.sessionId)
        (driveTurn_ends h) ?_) fun _ r hr => ?_
      · intro ledger' outcome ho
        rcases outcome with _ | (_ | _ | _) <;> exact ho
      · cases r <;> exact hr
  | closing result =>
      refine Obeys.bind (closeConversation_ends h) ?_
      intro _ r hr
      cases r <;> exact hr
  | exited result => exact h

end Adapter

/-! ## Main result -/

/-- The outcomes a run wrote, in order. -/
def outcomes (xs : List (Exchange Request Request.Answer)) : List (SessionId × TurnId) :=
  xs.filterMap writtenOutcome

/-- The Submits a run accepted, in order. -/
def submits (sessionId : SessionId) (xs : List (Exchange Request Request.Answer)) : List TurnId :=
  xs.filterMap (acceptedSubmit sessionId)

variable {adapter : Adapter}

theorem admits_of_writes (ledger : Ledger) {xs : List (Exchange Request Request.Answer)}
    (h : ∀ x ∈ xs, writeSucceeds x) : (ledgerMonitor adapter.sessionId).Admits ledger xs := by
  induction xs generalizing ledger with
  | nil => exact trivial
  | cons x xs ih =>
      exact ⟨h x List.mem_cons_self, ih _ fun y hy => h y (List.mem_cons_of_mem _ hy)⟩

/-- The ledger of a run whose writes succeed. -/
theorem run_ledger {tr : List (Transition.Event (Dialogue Request Request.Answer Adapter.Point)
      (Machine.Act Request Request.Answer) Unit)}
    {rest : Dialogue Request Request.Answer Adapter.Point}
    (h : adapter.runTextualStdio.system.Run (.pure .protocol) tr rest)
    (hwrites : ∀ x ∈ Machine.exchanges tr, writeSucceeds x) :
    rest.Obeys (ledgerMonitor adapter.sessionId) (Adapter.PointLedger adapter.sessionId)
      ⟨submits adapter.sessionId (Machine.exchanges tr), outcomes (Machine.exchanges tr)⟩ := by
  have hobeys := Machine.run_obeys Adapter.resume_obeys h (s := ⟨[], []⟩) rfl
    (admits_of_writes _ hwrites)
  rw [ledgerMonitor_after] at hobeys
  exact hobeys

/-- When `run_protocol` has returned, the outcomes and the accepted Submits are the
same, each in the session of the adapter.  Where `run_protocol` reads, every Submit
accepted so far has its outcome already. -/
theorem one_outcome_per_submit {tr : List (Transition.Event (Dialogue Request Request.Answer
      Adapter.Point) (Machine.Act Request Request.Answer) Unit)}
    {rest : Dialogue Request Request.Answer Adapter.Point}
    (h : adapter.runTextualStdio.system.Run (.pure .protocol) tr rest)
    (hwrites : ∀ x ∈ Machine.exchanges tr, writeSucceeds x) :
    (∀ result, rest = .pure (.closing result) →
      (outcomes (Machine.exchanges tr)).Perm
        ((submits adapter.sessionId (Machine.exchanges tr)).map (adapter.sessionId, ·))) ∧
    ∀ tr₁ x tr₂ command, tr = tr₁ ++ x :: tr₂ → x.act = .answer ⟨.nextCommand, command⟩ →
      outcomes (Machine.exchanges tr₁) =
        (submits adapter.sessionId (Machine.exchanges tr₁)).map (adapter.sessionId, ·) := by
  constructor
  · rintro result rfl
    exact run_ledger h hwrites
  · rintro tr₁ x tr₂ command rfl hact
    obtain ⟨h₁, hx, -⟩ := h.at
    have hobeys := run_ledger h₁ fun y hy => hwrites y (by
      rw [Machine.exchanges_append]
      exact List.mem_append_left _ hy)
    -- the question that is open there is the one the monitor guards
    rcases Machine.takes_cases hx with ⟨q, k, a, hpre, hact', -⟩ | ⟨_, -, hact', -⟩
    · rw [hact] at hact'
      cases hact'
      rw [hpre] at hobeys
      exact hobeys.1 rfl
    · rw [hact] at hact'
      cases hact'

/-- A Submit arrives while another Turn is driven, and the Agent confirms nothing. -/
theorem one_outcome_per_submit_crossed : ∃ tr rest,
    (Adapter.mk ⟨⟨1⟩⟩ 1000000).runTextualStdio.system.Run (.pure .protocol) tr rest ∧
    submits ⟨⟨1⟩⟩ (Machine.exchanges tr) = [⟨⟨2⟩⟩, ⟨⟨3⟩⟩] ∧
    (outcomes (Machine.exchanges tr)).Perm
      ((submits ⟨⟨1⟩⟩ (Machine.exchanges tr)).map ((⟨⟨1⟩⟩ : SessionId), ·)) := by
  obtain ⟨tr, rest, hrun, hacts, hrest⟩ := Transition.System.exec_any
    (Adapter.mk ⟨⟨1⟩⟩ 1000000).runTextualStdio.system (.pure .protocol)
    [.resume, .answer ⟨.nextCommand, .ok (some (.submit 1 ⟨⟨1⟩⟩ ⟨⟨2⟩⟩ "hello"))⟩,
      .resume, .answer ⟨.select ⟨⟨2⟩⟩, .command (.ok (some (.submit 1 ⟨⟨1⟩⟩ ⟨⟨3⟩⟩ "again")))⟩,
      .answer ⟨.write (.turnError 1 ⟨⟨1⟩⟩ ⟨⟨3⟩⟩ "another turn is already active"), .ok ()⟩,
      .answer ⟨.cancel ⟨⟨2⟩⟩, .ok (.cancel ⟨⟨1⟩⟩ ⟨⟨2⟩⟩ .cancellationRequested)⟩,
      .answer ⟨.write (.cancelResult 1 ⟨⟨1⟩⟩ ⟨⟨2⟩⟩ .cancellationRequested), .ok ()⟩,
      .answer ⟨.submission ⟨⟨2⟩⟩, none⟩,
      .answer ⟨.write (.turnError 1 ⟨⟨1⟩⟩ ⟨⟨2⟩⟩
        "Agent terminal was not confirmed before shutdown"), .ok ()⟩]
    (fun p => match p.2 with
      | .pure (.closing _) => true
      | _ => false) (by decide +kernel)
  have hexchanges := Machine.exchanges_of_acts tr
  rw [hacts] at hexchanges
  refine ⟨tr, rest, hrun, by rw [hexchanges]; decide +kernel, ?_⟩
  cases rest with
  | ask q k => cases hrest
  | pure point =>
      cases point with
      | closing result =>
          exact (one_outcome_per_submit hrun (by rw [hexchanges]; decide +kernel)).1 result rfl
      | opening => cases hrest
      | protocol => cases hrest
      | driving _ _ => cases hrest
      | exited _ => cases hrest

end Paraegox.Stdio
