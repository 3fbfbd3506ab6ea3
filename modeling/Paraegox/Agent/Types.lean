import Paraegox.Kernel.Uuid
import Paraegox.Text.Json
import Paraegox.Text.Unicode

/-!
# The vocabulary of an Agent conversation

Identifiers, terminals and results of a Turn, the JSON layout of an answer, and
the checks on the input and the deadline that the client and the service share.
-/

namespace Paraegox.Agent

def MAX_INPUT_BYTES : Nat := 4 * 1024
def MAX_AGENT_WIRE_RESPONSE_BYTES : Nat := 60 * 1024

/-- A `Duration`, in nanoseconds. -/
abbrev Duration := Nat

/-- `Duration::from_secs(60)`. -/
def MAX_TURN_DEADLINE : Duration := 60 * 1000000000

structure SessionId where
  uuid : Uuid
deriving DecidableEq, Repr

structure TurnId where
  uuid : Uuid
deriving DecidableEq, Repr

structure AgentError where
  message : String
deriving DecidableEq, Repr

inductive TurnFailure where
  | providerRejected
  | providerUnavailable
  | invalidProviderResponse
  | contextLimit
deriving DecidableEq, Repr

inductive TurnTerminal where
  | final (content : String)
  | cancelled
  | timedOut
  | failed (reason : TurnFailure)
deriving DecidableEq, Repr

structure TurnResult where
  sessionId : SessionId
  turnId : TurnId
  terminal : TurnTerminal
deriving DecidableEq, Repr

inductive CancelResult where
  | cancellationRequested
  | alreadyTerminal (terminal : TurnTerminal)
  | notActive
deriving DecidableEq, Repr

inductive WireResponse where
  | turn (result : TurnResult)
  | cancel (sessionId : SessionId) (turnId : TurnId) (result : CancelResult)
deriving DecidableEq, Repr

/-- The text of a failure, its `Display`. -/
def TurnFailure.message : TurnFailure → String
  | .providerRejected => "model provider rejected the request"
  | .providerUnavailable => "model provider is unavailable"
  | .invalidProviderResponse => "model provider returned an invalid response"
  | .contextLimit => "Agent session context limit was reached"

/-! ## JSON layout -/

def SessionId.toJson (s : SessionId) : Json := .str s.uuid.hyphenated

def TurnId.toJson (t : TurnId) : Json := .str t.uuid.hyphenated

def TurnFailure.toJson : TurnFailure → Json
  | .providerRejected => .str "provider_rejected"
  | .providerUnavailable => .str "provider_unavailable"
  | .invalidProviderResponse => .str "invalid_provider_response"
  | .contextLimit => .str "context_limit"

def TurnTerminal.toJson : TurnTerminal → Json
  | .final content => .obj [("terminal", .str "final"), ("content", .str content)]
  | .cancelled => .obj [("terminal", .str "cancelled")]
  | .timedOut => .obj [("terminal", .str "timed_out")]
  | .failed reason => .obj [("terminal", .str "failed"), ("reason", reason.toJson)]

def TurnResult.toJson (r : TurnResult) : Json :=
  .obj [("session_id", r.sessionId.toJson), ("turn_id", r.turnId.toJson),
    ("terminal", r.terminal.toJson)]

def CancelResult.toJson : CancelResult → Json
  | .cancellationRequested => .obj [("status", .str "cancellation_requested")]
  | .alreadyTerminal terminal =>
      .obj [("status", .str "already_terminal"), ("terminal", terminal.toJson)]
  | .notActive => .obj [("status", .str "not_active")]

def WireResponse.toJson : WireResponse → Json
  | .turn result => .obj [("response", .str "turn"), ("result", result.toJson)]
  | .cancel sessionId turnId result =>
      .obj [("response", .str "cancel"), ("session_id", sessionId.toJson),
        ("turn_id", turnId.toJson), ("result", result.toJson)]

/-! ## Checks -/

def validateInput (input : String) : Except AgentError Unit :=
  if (trim input.toList).isEmpty then .error ⟨"Agent input must not be empty"⟩
  else if MAX_INPUT_BYTES < input.utf8ByteSize then .error ⟨"Agent input exceeds 4 KiB"⟩
  else if input.toList.any isControl then
    .error ⟨"Agent input must not contain control characters"⟩
  else .ok ()

def validateTurnDeadline (deadline : Duration) : Except AgentError Unit :=
  if deadline = 0 ∨ MAX_TURN_DEADLINE < deadline then
    .error ⟨"Agent turn deadline must be greater than zero and at most 60 seconds"⟩
  else .ok ()

/-- A terminal whose answer would not fit the wire is replaced by a failure. -/
def wireSafeTerminal (sessionId : SessionId) (turnId : TurnId) (terminal : TurnTerminal) :
    TurnTerminal :=
  if (WireResponse.turn ⟨sessionId, turnId, terminal⟩).toJson.encodedLen ≤
      MAX_AGENT_WIRE_RESPONSE_BYTES
  then terminal
  else .failed .invalidProviderResponse

example : validateInput "alpha" = .ok () := by decide

example : wireSafeTerminal ⟨⟨1⟩⟩ ⟨⟨2⟩⟩ (.final "ok") = .final "ok" := by decide +kernel

end Paraegox.Agent
