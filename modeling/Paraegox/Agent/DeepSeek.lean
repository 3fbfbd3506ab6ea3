import Paraegox.Agent.Content
import Paraegox.Text.JsonFields
import Paraegox.Text.JsonParse

/-!
# The exchange with DeepSeek

What the server reads from a request, and what becomes of its response: a `Final` is the
content of one whole response to the conversation so far.
-/

namespace Paraegox.Agent

/-! ## The request -/

/-- A role, as a reader of the request takes it. -/
def ModelRole.ofJson : Json → Option ModelRole
  | .str "system" => some .system
  | .str "user" => some .user
  | .str "assistant" => some .assistant
  | _ => none

def ModelMessage.ofJson : Json → Option ModelMessage
  | .obj fields =>
      match fields.lookup "role", fields.lookup "content" with
      | some role, some (.str content) => (ModelRole.ofJson role).map fun role => ⟨role, content⟩
      | _, _ => none
  | _ => none

theorem ModelMessage.ofJson_toJson (message : ModelMessage) :
    ofJson message.toJson = some message := by
  obtain ⟨role, content⟩ := message
  cases role <;> rfl

variable (fromSlice : List UInt8 → Option DeepSeekChatResponse)

/-- The server has given this content: one choice, finished and safe, in a whole response
of bounded length. -/
def HttpOutcome.Gives (outcome : HttpOutcome) (content : String) : Prop :=
  ∃ (response : HttpResponse) (parts : List (List UInt8)), outcome = .responded response ∧
    (200 ≤ response.status ∧ response.status < 300) ∧
    (∀ length, response.contentLength = some length → length ≤ MAX_PROVIDER_RESPONSE_BYTES) ∧
    response.chunks = parts.map some ∧ parts.flatten.length ≤ MAX_PROVIDER_RESPONSE_BYTES ∧
    fromSlice parts.flatten = some ⟨[⟨⟨some content⟩, "stop"⟩]⟩ ∧ SafeContent content

variable {fromSlice}

variable {tr : List Event} {w : World}

end Paraegox.Agent
