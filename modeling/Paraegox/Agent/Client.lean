import Paraegox.Agent.Types
import Paraegox.Lib.Except

/-!
# The conversation client

`AgentConversationClient` sends a request over Fabric and checks the answer.  The
reply of `request`, which is an error or any decoded answer, is an argument here.
-/

namespace Paraegox.Agent

/-- `CLIENT_REPLY_GRACE`, in nanoseconds. -/
def CLIENT_REPLY_GRACE : Duration := 250 * 1000000

/-- `Duration::MAX`, in nanoseconds. -/
def Duration.MAX : Duration := (2 ^ 64 - 1) * 1000000000 + 999999999

/-- What `request` returns. -/
abbrev Reply := Except AgentError WireResponse

/-- `wire_deadline_ms`. -/
def wireDeadlineMs (deadline : Duration) : Except AgentError Nat := do
  validateTurnDeadline deadline
  let milliseconds := deadline / 1000000
  if 2 ^ 64 ≤ milliseconds then .error ⟨"Agent turn deadline is too large"⟩
  else if milliseconds = 0 then
    .error ⟨"Agent client deadline must be at least one millisecond"⟩
  else .ok milliseconds

/-- `client_reply_deadline`. -/
def clientReplyDeadline (deadline : Duration) : Except AgentError Duration :=
  if deadline + CLIENT_REPLY_GRACE ≤ Duration.MAX then .ok (deadline + CLIENT_REPLY_GRACE)
  else .error ⟨"Agent client reply deadline is too large"⟩

structure AgentConversationClient where
  sessionId : SessionId
deriving DecidableEq, Repr

/-- `submit_turn`, on the reply its request gets.  An input or a deadline that is
refused sends no request. -/
def AgentConversationClient.submitTurn (client : AgentConversationClient) (turnId : TurnId)
    (input : String) (deadline : Duration) (reply : Reply) : Except AgentError TurnResult := do
  validateInput input
  let _ ← wireDeadlineMs deadline
  let _ ← clientReplyDeadline deadline
  match ← reply with
  | .turn result =>
      if result.sessionId = client.sessionId ∧ result.turnId = turnId then .ok result
      else .error ⟨"Agent response identity does not match the submitted turn"⟩
  | .cancel _ _ _ => .error ⟨"Agent returned a cancel response for a submitted turn"⟩

/-- `cancel`, on the reply its request gets. -/
def AgentConversationClient.cancel (client : AgentConversationClient) (turnId : TurnId)
    (reply : Reply) : Except AgentError CancelResult := do
  match ← reply with
  | .cancel sessionId responseTurn result =>
      if sessionId = client.sessionId ∧ responseTurn = turnId then .ok result
      else .error ⟨"Agent cancel response identity does not match the request"⟩
  | .turn _ => .error ⟨"Agent returned a turn response for a cancel request"⟩

/-- A result the client returns is one of the submitted Turn. -/
theorem AgentConversationClient.submitTurn_identity {client : AgentConversationClient}
    {turnId : TurnId} {input : String} {deadline : Duration} {reply : Reply} {result : TurnResult}
    (h : client.submitTurn turnId input deadline reply = .ok result) :
    result.sessionId = client.sessionId ∧ result.turnId = turnId := by
  rw [submitTurn] at h
  obtain ⟨_, -, h⟩ := Except.ok_of_bind h
  obtain ⟨_, -, h⟩ := Except.ok_of_bind h
  obtain ⟨_, -, h⟩ := Except.ok_of_bind h
  obtain ⟨response, -, h⟩ := Except.ok_of_bind h
  cases response with
  | turn result' =>
      simp only at h
      split_ifs at h with hid
      cases h
      exact hid
  | cancel _ _ _ => cases h

end Paraegox.Agent
