import Paraegox.Deployment.System

/-!
# The adapter relays

The adapter makes up no outcome.  A terminal it writes, and a cancellation it confirms,
was said by the service, and the input it drives a Turn with was read from its own
input.  `Facts` is what is known to have happened elsewhere; what the adapter writes
rests on it, as long as what it reads does.
-/

namespace Paraegox.Deployment

open Agent (AgentConversationClient AgentError SessionId TurnId WireResponse)
open Dialogue (Handles Obeys)
open Stdio

/-- What happened on the way to a terminal. -/
structure Facts where
  /-- The user submitted this input under this Turn. -/
  typed : TurnId → String → Prop
  /-- The service returned this. -/
  said : Agent.Report → Prop

variable (facts : Facts)

/-- A Submit carries what the user typed. -/
def Facts.Typed : InputFrame → Prop
  | .submit _ _ turnId input => facts.typed turnId input
  | _ => True

/-- An answer repeats what the service said. -/
def Facts.Answers (reply : Agent.Reply) : Prop :=
  ∀ response, reply = .ok response → facts.said response.report

/-- An outcome repeats what the service said. -/
def Facts.Backs (sessionId : SessionId) : OutputFrame → Prop
  | .turnTerminal _ result => result.sessionId = sessionId ∧
      ∃ r, facts.said r ∧ r.Carries result.sessionId result.turnId result.terminal
  | .cancelResult _ session turnId .cancellationRequested => session = sessionId ∧
      facts.said (.cancel session turnId .cancellationRequested)
  | _ => True

/-- What the adapter relies on and what it guarantees. -/
def relay (sessionId : SessionId) : Monitor Request Request.Answer Unit where
  permits _
    | .write frame => facts.Backs sessionId frame
    | _ => True
  expects _
    | ⟨.nextCommand, command⟩ => ∀ frame, (command : Command) = .ok (some frame) → facts.Typed frame
    | ⟨.select _, selected⟩ =>
        match (selected : Selected) with
        | .submission reply => facts.Answers reply
        | .command command => ∀ frame, command = .ok (some frame) → facts.Typed frame
    | ⟨.cancel _, reply⟩ => facts.Answers reply
    | ⟨.submission _, reply⟩ => ∀ r, (reply : Option Agent.Reply) = some r → facts.Answers r
    | _ => True
  next _ _ := ()

/-- The Turn that is driven was typed. -/
def Facts.Drives : Adapter.Point → Prop
  | .driving turnId input => facts.typed turnId input
  | _ => True

/-- A block of the adapter relays and ends in `R`. -/
abbrev Relays {α : Type} (sessionId : SessionId) (R : α → Prop) (block : Block α) : Prop :=
  Handles (relay facts sessionId) (fun _ => R) (fun _ _ => True) block ()

variable {facts} {adapter : Adapter} {turnId : TurnId} {input : String}

/-! ## Blocks -/

theorem relays_await {request : Request} {R : request.Answer → Prop}
    (hq : (relay facts adapter.sessionId).permits () request)
    (hx : ∀ x, (relay facts adapter.sessionId).expects () ⟨request, x⟩ → R x) :
    Relays facts adapter.sessionId R (await request) :=
  Handles.lift (Obeys.request hq hx)

theorem relays_io {α : Type} {R : α → Prop} {result : Except IoError α}
    (h : ∀ a, result = .ok a → R a) : Relays facts adapter.sessionId R (io result) := by
  cases result with
  | ok a => exact Handles.pure (h a rfl)
  | error error => exact Handles.throw trivial

/-- A frame that is backed is sent, or the run fails. -/
theorem send_relays {frame : OutputFrame} (h : facts.Backs adapter.sessionId frame) :
    Relays facts adapter.sessionId (fun _ => True) (send frame) := by
  refine Handles.bind (R := fun _ _ => True) (relays_await h fun _ _ => trivial) ?_
  intro _ write _
  exact relays_io fun _ _ => trivial

/-- Then the block goes on. -/
theorem relays_send {α : Type} {R : α → Prop} {frame : OutputFrame} {rest : Block α}
    (h : facts.Backs adapter.sessionId frame) (hrest : Relays facts adapter.sessionId R rest) :
    Relays facts adapter.sessionId R (send frame >>= fun _ => rest) :=
  Handles.bind (send_relays h) fun _ _ _ => hrest

/-- What the client takes for the terminal of a submitted Turn. -/
theorem backs_submitted {reply : Agent.Reply} {result : Agent.TurnResult}
    (hreply : facts.Answers reply)
    (h : adapter.client.submitTurn turnId input adapter.turnTimeout reply = .ok result) :
    facts.Backs adapter.sessionId (.turnTerminal PROTOCOL_VERSION result) := by
  obtain ⟨request, haccept⟩ := AgentConversationClient.submitRequest_of_submitTurn h
  cases reply with
  | error error =>
      rw [AgentConversationClient.submitTurn] at h
      obtain ⟨_, -, h⟩ := Except.ok_of_bind h
      obtain ⟨_, -, h⟩ := Except.ok_of_bind h
      obtain ⟨_, -, h⟩ := Except.ok_of_bind h
      cases h
  | ok response =>
      obtain ⟨rfl, hsession, -⟩ :=
        (AgentConversationClient.submitTurn_iff haccept response result).mp h
      exact ⟨hsession, .turn result, hreply _ rfl, .inl rfl⟩

/-- What the client takes for the answer to a cancel. -/
theorem said_cancelled {reply : Agent.Reply} {result : Agent.CancelResult}
    (hreply : facts.Answers reply) (h : adapter.client.cancel turnId reply = .ok result) :
    facts.said (.cancel adapter.sessionId turnId result) := by
  cases reply with
  | error error => cases h
  | ok response =>
      obtain rfl := (adapter.client.cancel_iff turnId response result).mp h
      exact hreply _ rfl

theorem backs_cancelResult {result : Agent.CancelResult}
    (h : facts.said (.cancel adapter.sessionId turnId result)) :
    facts.Backs adapter.sessionId
      (.cancelResult PROTOCOL_VERSION adapter.sessionId turnId (cancelStatus result).1) := by
  cases result with
  | cancellationRequested => exact ⟨rfl, h⟩
  | alreadyTerminal terminal => exact trivial
  | notActive => exact trivial

theorem backs_alreadyTerminal {result : Agent.CancelResult} {terminal : Agent.TurnTerminal}
    (h : facts.said (.cancel adapter.sessionId turnId result))
    (hterminal : (cancelStatus result).2 = some terminal) :
    facts.Backs adapter.sessionId
      (.turnTerminal PROTOCOL_VERSION ⟨adapter.sessionId, turnId, terminal⟩) := by
  cases result with
  | cancellationRequested => cases hterminal
  | alreadyTerminal terminal' =>
      cases hterminal
      exact ⟨rfl, _, h, .inr rfl⟩
  | notActive => cases hterminal

theorem endTurn_relays {reply : Agent.Reply} (hreply : facts.Answers reply) :
    Relays facts adapter.sessionId (fun _ => True) (adapter.endTurn turnId input reply) := by
  rw [Adapter.endTurn]
  cases hresult : adapter.client.submitTurn turnId input adapter.turnTimeout reply with
  | ok result => exact relays_send (backs_submitted hreply hresult) (Handles.pure trivial)
  | error error => exact relays_send trivial (Handles.pure trivial)

theorem finishActiveShutdown_relays :
    Relays facts adapter.sessionId (fun _ => True)
      (adapter.finishActiveShutdown turnId input) := by
  refine Handles.bind (relays_await trivial fun _ h => h) ?_
  intro _ reply hreply
  cases hcancel : adapter.client.cancel turnId reply with
  | error error => exact relays_send trivial (Handles.pure trivial)
  | ok result =>
      have hsaid := said_cancelled hreply hcancel
      refine relays_send (backs_cancelResult hsaid) ?_
      cases hterminal : (cancelStatus result).2 with
      | some terminal =>
          exact relays_send (backs_alreadyTerminal hsaid hterminal) (Handles.pure trivial)
      | none =>
          refine Handles.bind (relays_await trivial fun _ h => h) ?_
          intro _ confirmed hconfirmed
          cases confirmed with
          | none => exact relays_send trivial (Handles.pure trivial)
          | some reply =>
              simp only [Option.map_some]
              cases hresult :
                  adapter.client.submitTurn turnId input adapter.turnTimeout reply with
              | ok result =>
                  exact relays_send (backs_submitted (hconfirmed reply rfl) hresult)
                    (Handles.pure trivial)
              | error error => exact relays_send trivial (Handles.pure trivial)

theorem failActiveProtocol_relays {α : Type} {R : α → Prop} {error : IoError} :
    Relays facts adapter.sessionId R (adapter.failActiveProtocol turnId input error) := by
  refine Handles.bind (R := fun _ _ => True) (Handles.attempt ?_) fun _ _ _ =>
    Handles.throw trivial
  exact finishActiveShutdown_relays

theorem cancelTurn_relays :
    Relays facts adapter.sessionId (fun _ => True) (adapter.cancelTurn turnId) := by
  refine Handles.bind (relays_await trivial fun _ h => h) ?_
  intro _ reply hreply
  cases hcancel : adapter.client.cancel turnId reply with
  | error error => exact relays_send trivial (Handles.pure trivial)
  | ok result =>
      have hsaid := said_cancelled hreply hcancel
      refine relays_send (backs_cancelResult hsaid) ?_
      cases hterminal : (cancelStatus result).2 with
      | some terminal =>
          exact relays_send (backs_alreadyTerminal hsaid hterminal) (Handles.pure trivial)
      | none => exact Handles.pure trivial

theorem activeCommand_relays (command : InputFrame) :
    Relays facts adapter.sessionId (fun _ => True)
      (adapter.activeCommand turnId input command) := by
  cases command with
  | cancel v requestedSession requestedTurn =>
      rw [Adapter.activeCommand]
      split
      · exact failActiveProtocol_relays
      · split_ifs
        · exact relays_send trivial (Handles.pure trivial)
        · exact cancelTurn_relays
  | submit v submittedSession submittedTurn submittedInput =>
      rw [Adapter.activeCommand]
      split
      · exact failActiveProtocol_relays
      · refine relays_send trivial (Handles.bind finishActiveShutdown_relays ?_)
        intro _ _ _
        exact Handles.pure trivial
  | shutdown v requestedSession =>
      rw [Adapter.activeCommand]
      split
      · exact failActiveProtocol_relays
      · exact Handles.map finishActiveShutdown_relays fun _ _ _ => trivial

theorem driveTurn_relays :
    Relays facts adapter.sessionId (fun _ => True) (adapter.driveTurn turnId input) := by
  refine Handles.bind (relays_await trivial fun _ h => h) ?_
  intro _ selected hselected
  cases selected with
  | submission reply => exact Handles.map (endTurn_relays hselected) fun _ _ _ => trivial
  | command command =>
      rcases command with error | _ | command
      · exact failActiveProtocol_relays
      · exact Handles.map finishActiveShutdown_relays fun _ _ _ => trivial
      · dsimp only
        cases command.ensureVersion with
        | error error => exact failActiveProtocol_relays
        | ok _ => exact activeCommand_relays command

theorem runProtocol_relays :
    Relays facts adapter.sessionId facts.Drives adapter.runProtocol := by
  refine Handles.bind (relays_await trivial fun _ h => h) ?_
  intro _ command hcommand
  refine Handles.bind (R := fun _ command => ∀ frame, command = some frame → facts.Typed frame)
    (relays_io ?_) ?_
  · rintro a rfl frame rfl
    exact hcommand frame rfl
  intro _ command htyped
  cases command with
  | none => exact Handles.pure trivial
  | some command =>
      refine Handles.bind (R := fun _ _ => True) (relays_io fun _ _ => trivial) ?_
      intro _ _ _
      cases command with
      | submit v session turnId input =>
          refine Handles.bind (R := fun _ _ => True) (relays_io fun _ _ => trivial) ?_
          intro _ _ _
          exact Handles.pure (htyped _ rfl)
      | cancel v session turnId =>
          refine Handles.bind (R := fun _ _ => True) (relays_io fun _ _ => trivial) ?_
          intro _ _ _
          exact relays_send trivial (Handles.pure trivial)
      | shutdown v session =>
          refine Handles.bind (R := fun _ _ => True) (relays_io fun _ _ => trivial) ?_
          intro _ _ _
          exact Handles.pure trivial

theorem openConversation_relays :
    Relays facts adapter.sessionId facts.Drives adapter.openConversation := by
  refine Handles.bind (R := fun _ _ => True) (relays_io fun _ _ => trivial) ?_
  intro _ turnTimeoutMs _
  refine Handles.bind (R := fun _ _ => True) (Handles.attempt (send_relays trivial)) ?_
  intro _ sent _
  cases sent with
  | ok _ => exact Handles.pure trivial
  | error error =>
      refine Handles.bind (R := fun _ _ => True) (relays_await trivial fun _ _ => trivial) ?_
      intro _ _ _
      exact Handles.throw trivial

theorem closeConversation_relays {result : Except AdapterError ProtocolOutcome} :
    Relays facts adapter.sessionId (fun _ => True) (adapter.closeConversation result) := by
  refine Handles.bind (R := fun _ _ => True) (relays_await trivial fun _ _ => trivial) ?_
  intro _ closeResult _
  match result, closeResult with
  | .ok .graceful, .ok () => exact send_relays trivial
  | .ok .fatal, .ok () => exact Handles.throw trivial
  | .error _, .ok () => exact Handles.throw trivial
  | .error _, .error _ => exact Handles.throw trivial
  | .ok .graceful, .error _ => exact Handles.throw trivial
  | .ok .fatal, .error _ => exact Handles.throw trivial

/-- The adapter relays, wherever it stands. -/
theorem resume_relays (point : Adapter.Point) (h : facts.Drives point) :
    (adapter.runTextualStdio.resume point).Obeys (relay facts adapter.sessionId)
      (fun _ => facts.Drives) () := by
  cases point with
  | opening =>
      refine Obeys.bind openConversation_relays fun _ r hr => ?_
      cases r with
      | ok point => exact hr
      | error error => exact trivial
  | protocol =>
      refine Obeys.bind runProtocol_relays fun _ r hr => ?_
      cases r with
      | ok point => exact hr
      | error error => exact trivial
  | driving turnId input =>
      refine Obeys.bind (Handles.map (T := fun _ => facts.Drives) driveTurn_relays ?_)
        fun _ r hr => ?_
      · intro _ outcome _
        rcases outcome with _ | (_ | _ | _)
        · exact h
        · exact trivial
        · exact trivial
        · exact trivial
      · cases r with
        | ok point => exact hr
        | error error => exact trivial
  | closing result =>
      refine Obeys.bind closeConversation_relays fun _ r _ => ?_
      cases r with
      | ok _ => exact trivial
      | error _ => exact trivial
  | exited result => exact trivial

end Paraegox.Deployment
