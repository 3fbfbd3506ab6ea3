import Paraegox.Agent.Provider
import Paraegox.Agent.Types
import Paraegox.Text.JsonBytes

/-!
# What the providers answer

`CompletionProvider::complete` of the two providers.  The deterministic one quotes the
last two inputs of its context.  The other one asks a remote server: what the HTTP client
reports of the exchange is an argument, and so is `serde_json::from_slice` on the body of
the response.
-/

namespace Paraegox.Agent

def MAX_MODEL_CONTENT_BYTES : Nat := 16 * 1024
def MAX_PROVIDER_REQUEST_BYTES : Nat := 512 * 1024
def MAX_PROVIDER_RESPONSE_BYTES : Nat := 64 * 1024
def DEEPSEEK_MAX_TOKENS : Nat := 512
def DEEPSEEK_V4_FLASH_MODEL : String := "deepseek-v4-flash"

/-! ## The deterministic responder -/

/-- `deterministic_final`; a context without an input fails its `expect`. -/
def deterministicFinal (context : ModelContext) : Option String :=
  let userInputs := (context.messages.reverse.filter fun message =>
    message.role = .user).map ModelMessage.content
  match userInputs with
  | [] => none
  | [current] => some ("current: " ++ current)
  | current :: previous :: _ => some ("previous: " ++ previous ++ "; current: " ++ current)

/-! ## DeepSeek -/

structure DeepSeekResponseMessage where
  content : Option String

structure DeepSeekChoice where
  message : DeepSeekResponseMessage
  finishReason : String

structure DeepSeekChatResponse where
  choices : List DeepSeekChoice

def ModelRole.toJson : ModelRole → Json
  | .system => .str "system"
  | .user => .str "user"
  | .assistant => .str "assistant"

def ModelMessage.toJson (message : ModelMessage) : Json :=
  .obj [("role", message.role.toJson), ("content", .str message.content)]

/-- `encode_deepseek_request`. -/
def encodeDeepseekRequest (context : ModelContext) : Except TurnFailure (List UInt8) :=
  let body := (Json.obj [("model", .str DEEPSEEK_V4_FLASH_MODEL),
    ("messages", .arr (context.messages.map ModelMessage.toJson)),
    ("thinking", .obj [("type", .str "disabled")]), ("stream", .bool false),
    ("max_tokens", .num DEEPSEEK_MAX_TOKENS)]).encode
  if MAX_PROVIDER_REQUEST_BYTES < body.length then .error .contextLimit else .ok body

/-- `is_safe_model_content`. -/
def isSafeModelContent (content : String) : Bool :=
  !(trim content.toList).isEmpty && content.utf8ByteSize ≤ MAX_MODEL_CONTENT_BYTES &&
    !content.toList.any fun c => isControl c && c ≠ '\n' && c ≠ '\t'

/-- `classify_provider_status`. -/
def classifyProviderStatus (status : Nat) : TurnFailure :=
  if status = 429 ∨ 500 ≤ status ∧ status < 600 then .providerUnavailable else .providerRejected

/-- What the HTTP client hands over of a response; a chunk it cannot read is `none`. -/
structure HttpResponse where
  status : Nat
  contentLength : Option Nat
  chunks : List (Option (List UInt8))

/-- What becomes of a request. -/
inductive HttpOutcome where
  /-- The authorization header is no header value. -/
  | unauthorized
  | unsent
  | responded (response : HttpResponse)

/-- The loop over the chunks of a response. -/
def readChunks : List (Option (List UInt8)) → List UInt8 → Except TurnFailure (List UInt8)
  | [], payload => .ok payload
  | none :: _, _ => .error .providerUnavailable
  | some chunk :: chunks, payload =>
      if MAX_PROVIDER_RESPONSE_BYTES < payload.length then .error .invalidProviderResponse
      else if MAX_PROVIDER_RESPONSE_BYTES - payload.length < chunk.length then
        .error .invalidProviderResponse
      else readChunks chunks (payload ++ chunk)

section

variable (fromSlice : List UInt8 → Option DeepSeekChatResponse)

/-- `decode_deepseek_response`. -/
def decodeDeepseekResponse (payload : List UInt8) : Except TurnFailure String :=
  match fromSlice payload with
  | none => .error .invalidProviderResponse
  | some response =>
      match response.choices with
      | [choice] =>
          if choice.finishReason ≠ "stop" then .error .invalidProviderResponse
          else
            match choice.message.content with
            | none => .error .invalidProviderResponse
            | some content =>
                if ¬ isSafeModelContent content then .error .invalidProviderResponse
                else .ok content
      | _ => .error .invalidProviderResponse

/-- `DeepSeekV4FlashProvider::complete` past its request. -/
def HttpOutcome.answer : HttpOutcome → Except TurnFailure String
  | .unauthorized => .error .providerRejected
  | .unsent => .error .providerUnavailable
  | .responded response =>
      if response.status < 200 ∨ 300 ≤ response.status then
        .error (classifyProviderStatus response.status)
      else if response.contentLength.any fun length => MAX_PROVIDER_RESPONSE_BYTES < length then
        .error .invalidProviderResponse
      else do
        let payload ← readChunks response.chunks []
        decodeDeepseekResponse fromSlice payload

/-- `DeepSeekV4FlashProvider::complete`. -/
def deepseekComplete (context : ModelContext) (outcome : HttpOutcome) :
    Except TurnFailure String := do
  let _ ← encodeDeepseekRequest context
  outcome.answer fromSlice

/-- The answers of `CompletionProvider::complete`. -/
inductive CompletionProvider.Answers (context : ModelContext) :
    CompletionProvider → Except TurnFailure String → Prop where
  | deterministic {content : String} : deterministicFinal context = some content →
      Answers context .deterministic (.ok content)
  | deepSeekV4Flash (outcome : HttpOutcome) :
      Answers context .deepSeekV4Flash (deepseekComplete fromSlice context outcome)

end

end Paraegox.Agent
