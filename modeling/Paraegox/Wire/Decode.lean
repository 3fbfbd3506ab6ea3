import Paraegox.Agent.Types
import Paraegox.Kernel.UuidParse
import Paraegox.Text.JsonFields
import Paraegox.Text.JsonParse

/-!
# Reading the Agent messages

What the derived `Deserialize` makes of a JSON value: an internally tagged enum is read
by its tag, a field that is missing or repeated is an error, and a field no one asks for
is skipped, unless the type denies it.  Each reader undoes the layout of its type.
-/

namespace Paraegox

namespace Agent

open Json

/-! ## Answers -/

def SessionId.ofJson (j : Json) : Option SessionId :=
  (j.toText.bind Uuid.fromStr).map SessionId.mk

def TurnId.ofJson (j : Json) : Option TurnId := (j.toText.bind Uuid.fromStr).map TurnId.mk

def TurnFailure.ofJson (j : Json) : Option TurnFailure := do
  match ← j.toText with
  | "provider_rejected" => some .providerRejected
  | "provider_unavailable" => some .providerUnavailable
  | "invalid_provider_response" => some .invalidProviderResponse
  | "context_limit" => some .contextLimit
  | _ => none

def TurnTerminal.ofJson (j : Json) : Option TurnTerminal := do
  let fields ← j.toFields
  match ← textField fields "terminal" with
  | "final" => (textField fields "content").map .final
  | "cancelled" => some .cancelled
  | "timed_out" => some .timedOut
  | "failed" => ((field fields "reason").bind TurnFailure.ofJson).map .failed
  | _ => none

def TurnResult.ofJson (j : Json) : Option TurnResult := do
  let fields ← j.toFields
  let sessionId ← (field fields "session_id").bind SessionId.ofJson
  let turnId ← (field fields "turn_id").bind TurnId.ofJson
  let terminal ← (field fields "terminal").bind TurnTerminal.ofJson
  some ⟨sessionId, turnId, terminal⟩

def CancelResult.ofJson (j : Json) : Option CancelResult := do
  let fields ← j.toFields
  match ← textField fields "status" with
  | "cancellation_requested" => some .cancellationRequested
  | "already_terminal" =>
      ((field fields "terminal").bind TurnTerminal.ofJson).map .alreadyTerminal
  | "not_active" => some .notActive
  | _ => none

def WireResponse.ofJson (j : Json) : Option WireResponse := do
  let fields ← j.toFields
  match ← textField fields "response" with
  | "turn" => ((field fields "result").bind TurnResult.ofJson).map .turn
  | "cancel" => do
      let sessionId ← (field fields "session_id").bind SessionId.ofJson
      let turnId ← (field fields "turn_id").bind TurnId.ofJson
      let result ← (field fields "result").bind CancelResult.ofJson
      some (.cancel sessionId turnId result)
  | _ => none

/-! ## Requests -/

inductive WireRequest where
  | submit (sessionId : SessionId) (turnId : TurnId) (input : String) (deadlineMs : Nat)
  | cancel (sessionId : SessionId) (turnId : TurnId)
deriving DecidableEq, Repr

def WireRequest.toJson : WireRequest → Json
  | .submit sessionId turnId input deadlineMs =>
      .obj [("operation", .str "submit"), ("session_id", sessionId.toJson),
        ("turn_id", turnId.toJson), ("input", .str input), ("deadline_ms", .num deadlineMs)]
  | .cancel sessionId turnId =>
      .obj [("operation", .str "cancel"), ("session_id", sessionId.toJson),
        ("turn_id", turnId.toJson)]

def WireRequest.ofJson (j : Json) : Option WireRequest := do
  let fields ← j.toFields
  match ← textField fields "operation" with
  | "submit" =>
      if onlyFields fields ["operation", "session_id", "turn_id", "input", "deadline_ms"] then do
        let sessionId ← (field fields "session_id").bind SessionId.ofJson
        let turnId ← (field fields "turn_id").bind TurnId.ofJson
        let input ← textField fields "input"
        let deadlineMs ← (field fields "deadline_ms").bind toU64
        some (.submit sessionId turnId input deadlineMs)
      else none
  | "cancel" =>
      if onlyFields fields ["operation", "session_id", "turn_id"] then do
        let sessionId ← (field fields "session_id").bind SessionId.ofJson
        let turnId ← (field fields "turn_id").bind TurnId.ofJson
        some (.cancel sessionId turnId)
      else none
  | _ => none

/-! ## Each reader undoes its layout -/

theorem SessionId.ofJson_toJson (s : SessionId) : SessionId.ofJson s.toJson = some s := by
  rw [SessionId.ofJson, SessionId.toJson, toText, Option.bind_some, Uuid.fromStr_hyphenated]
  rfl

theorem TurnId.ofJson_toJson (t : TurnId) : TurnId.ofJson t.toJson = some t := by
  rw [TurnId.ofJson, TurnId.toJson, toText, Option.bind_some, Uuid.fromStr_hyphenated]
  rfl

theorem TurnFailure.ofJson_toJson (reason : TurnFailure) :
    TurnFailure.ofJson reason.toJson = some reason := by
  cases reason <;> rfl

theorem TurnTerminal.ofJson_toJson (terminal : TurnTerminal) :
    TurnTerminal.ofJson terminal.toJson = some terminal := by
  cases terminal with
  | final content => rfl
  | cancelled => rfl
  | timedOut => rfl
  | failed reason =>
      exact congrArg (Option.map TurnTerminal.failed) (TurnFailure.ofJson_toJson reason)

theorem TurnResult.ofJson_toJson (result : TurnResult) :
    TurnResult.ofJson result.toJson = some result := by
  simp [TurnResult.ofJson, TurnResult.toJson, toFields, field, SessionId.ofJson_toJson,
    TurnId.ofJson_toJson, TurnTerminal.ofJson_toJson]

theorem CancelResult.ofJson_toJson (result : CancelResult) :
    CancelResult.ofJson result.toJson = some result := by
  cases result with
  | cancellationRequested => rfl
  | alreadyTerminal terminal =>
      simp [CancelResult.ofJson, CancelResult.toJson, toFields, field, textField, toText,
        TurnTerminal.ofJson_toJson]
  | notActive => rfl

theorem WireResponse.ofJson_toJson (response : WireResponse) :
    WireResponse.ofJson response.toJson = some response := by
  cases response with
  | turn result =>
      simp [WireResponse.ofJson, WireResponse.toJson, toFields, field, textField, toText,
        TurnResult.ofJson_toJson]
  | cancel s t result =>
      simp [WireResponse.ofJson, WireResponse.toJson, toFields, field, textField, toText,
        SessionId.ofJson_toJson, TurnId.ofJson_toJson, CancelResult.ofJson_toJson]

theorem WireRequest.ofJson_submit (s : SessionId) (t : TurnId) (input : String) {deadlineMs : Nat}
    (h : deadlineMs < 2 ^ 64) :
    WireRequest.ofJson (WireRequest.submit s t input deadlineMs).toJson =
      some (.submit s t input deadlineMs) := by
  have hms : toU64 (.num deadlineMs) = some deadlineMs := if_pos h
  simp [WireRequest.ofJson, WireRequest.toJson, toFields, field, textField, toText, onlyFields,
    SessionId.ofJson_toJson, TurnId.ofJson_toJson, hms]

theorem WireRequest.ofJson_cancel (s : SessionId) (t : TurnId) :
    WireRequest.ofJson (WireRequest.cancel s t).toJson = some (.cancel s t) := by
  simp [WireRequest.ofJson, WireRequest.toJson, toFields, field, textField, toText, onlyFields,
    SessionId.ofJson_toJson, TurnId.ofJson_toJson]

end Agent

end Paraegox
