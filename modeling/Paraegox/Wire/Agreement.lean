import Paraegox.Agent.Client
import Paraegox.Agent.Content
import Paraegox.Wire.Decode

/-!
# Client and server of the Agent wire

`AgentConversationClient` encodes a request, `serve_wire_request` decodes it, asks the
handle and encodes the answer, and the client decodes that.  What the handle answers is
an argument, and so are the texts of decoding errors.
-/

namespace Paraegox.Agent

open Json

/-- `Duration::from_millis`. -/
def Duration.fromMillis (milliseconds : Nat) : Duration := milliseconds * 1000000

/-! ## The client -/

/-- The request of `submit_turn`, and how long it waits for the answer. -/
def AgentConversationClient.submitRequest (client : AgentConversationClient) (turnId : TurnId)
    (input : String) (deadline : Duration) : Except AgentError (WireRequest × Duration) := do
  validateInput input
  let deadlineMs ← wireDeadlineMs deadline
  let replyDeadline ← clientReplyDeadline deadline
  .ok (.submit client.sessionId turnId input deadlineMs, replyDeadline)

/-- The request of `cancel`. -/
def AgentConversationClient.cancelRequest (client : AgentConversationClient) (turnId : TurnId) :
    WireRequest :=
  .cancel client.sessionId turnId

/-- The end of `request`, on the bytes Fabric returned. -/
def decodeReply (detail : String) (response : List UInt8) : Reply :=
  match (decode response).bind WireResponse.ofJson with
  | some response => .ok response
  | none => .error ⟨"could not decode Agent response: " ++ detail⟩

/-! ## The server -/

/-- What an `AgentHandle` answers. -/
structure HandleAnswers where
  submitTurn : SessionId → TurnId → String → Duration → Except AgentError TurnResult
  cancel : SessionId → TurnId → Except AgentError CancelResult

/-- The answer to a request. -/
def HandleAnswers.respond (handle : HandleAnswers) :
    WireRequest → Except AgentError WireResponse
  | .submit sessionId turnId input deadlineMs => do
      let result ← handle.submitTurn sessionId turnId input (.fromMillis deadlineMs)
      .ok (.turn result)
  | .cancel sessionId turnId => do
      let result ← handle.cancel sessionId turnId
      .ok (.cancel sessionId turnId result)

/-- `serve_wire_request`. -/
def serveWireRequest (handle : HandleAnswers) (detail : String) (payload : List UInt8) :
    Except AgentError (List UInt8) :=
  match (decode payload).bind WireRequest.ofJson with
  | none => .error ⟨"invalid Agent request: " ++ detail⟩
  | some request => do
      let response ← handle.respond request
      .ok response.toJson.encode

/-! ## Deadlines -/

theorem wireDeadlineMs_ok {deadline : Duration} {deadlineMs : Nat}
    (h : wireDeadlineMs deadline = .ok deadlineMs) :
    (0 < deadlineMs ∧ deadlineMs ≤ 60000) ∧ .fromMillis deadlineMs ≤ deadline ∧
      deadline < .fromMillis deadlineMs + .fromMillis 1 := by
  rw [wireDeadlineMs] at h
  obtain ⟨_, hvalid, h⟩ := Except.ok_of_bind h
  rw [validateTurnDeadline] at hvalid
  split_ifs at hvalid with hrange
  have hle : deadline ≤ MAX_TURN_DEADLINE := Nat.le_of_not_lt fun hlt => hrange (.inr hlt)
  simp only at h
  split_ifs at h with hhuge hzero
  have hpos : 0 < deadline / 1000000 := Nat.pos_of_ne_zero hzero
  cases h
  have harith : ∀ d : Nat, 0 < d / 1000000 → d ≤ 60000000000 →
      (0 < d / 1000000 ∧ d / 1000000 ≤ 60000) ∧ d / 1000000 * 1000000 ≤ d ∧
        d < d / 1000000 * 1000000 + 1 * 1000000 := by
    intro d hd hmax
    omega
  exact harith deadline hpos hle

/-- The server accepts the deadline a client sends. -/
theorem validateTurnDeadline_fromMillis {deadlineMs : Nat}
    (h : 0 < deadlineMs ∧ deadlineMs ≤ 60000) :
    validateTurnDeadline (.fromMillis deadlineMs) = .ok () := by
  refine if_neg ?_
  rintro (hzero | hlarge)
  · have hzero : deadlineMs * 1000000 = (0 : Nat) := hzero
    omega
  · have hlarge : (60000000000 : Nat) < deadlineMs * 1000000 := hlarge
    omega

/-! ## Lengths -/

theorem WireRequest.encodedLen_submit (s : SessionId) (t : TurnId) {input : String}
    {deadlineMs : Nat} (hinput : validateInput input = .ok ()) (hms : deadlineMs ≤ 60000) :
    (WireRequest.submit s t input deadlineMs).toJson.encodedLen ≤ 64 * 1024 := by
  have hquote := quoteLen_input hinput
  have hmax : MAX_INPUT_BYTES = 4096 := rfl
  have hnum : (Json.num deadlineMs).encodedLen ≤ 5 := encodedLen_num_le (by decide) (by omega)
  have hnames : namesLen ["operation", "session_id", "turn_id", "input", "deadline_ms"] = 63 := by
    decide
  have hsubmit : (Json.str "submit").encodedLen = 8 := by decide
  rw [toJson, encodedLen_obj]
  simp only [List.map_cons, List.map_nil, List.sum_cons, List.sum_nil, hnames, hsubmit,
    SessionId.encodedLen_toJson, TurnId.encodedLen_toJson, encodedLen_str]
  omega

theorem WireRequest.encodedLen_cancel (s : SessionId) (t : TurnId) :
    (WireRequest.cancel s t).toJson.encodedLen ≤ 64 * 1024 := by
  have hnames : namesLen ["operation", "session_id", "turn_id"] = 39 := by decide
  have hcancel : (Json.str "cancel").encodedLen = 8 := by decide
  rw [toJson, encodedLen_obj]
  simp only [List.map_cons, List.map_nil, List.sum_cons, List.sum_nil, hnames, hcancel,
    SessionId.encodedLen_toJson, TurnId.encodedLen_toJson]
  omega

/-! ## Agreement -/

theorem decodeReply_encode (detail : String) (response : WireResponse) :
    decodeReply detail response.toJson.encode = .ok response := by
  rw [decodeReply, decode_encode, Option.bind_some, WireResponse.ofJson_toJson]

/-- A request that is read back is answered with what the handle answers. -/
theorem serveWireRequest_encode {handle : HandleAnswers} {request : WireRequest}
    {response : WireResponse} (detail : String)
    (h : WireRequest.ofJson request.toJson = some request)
    (hresponse : handle.respond request = .ok response) :
    serveWireRequest handle detail request.toJson.encode = .ok response.toJson.encode := by
  rw [serveWireRequest, decode_encode, Option.bind_some, h]
  simp only [hresponse, Except.ok_bind]

/-- The client takes an answer to its own submit, and no other. -/
theorem AgentConversationClient.submitTurn_iff {client : AgentConversationClient}
    {turnId : TurnId} {input : String} {deadline : Duration} {request : WireRequest × Duration}
    (h : client.submitRequest turnId input deadline = .ok request) (response : WireResponse)
    (result : TurnResult) :
    client.submitTurn turnId input deadline (.ok response) = .ok result ↔
      response = .turn result ∧ result.sessionId = client.sessionId ∧ result.turnId = turnId := by
  rw [submitRequest] at h
  obtain ⟨_, hinput, h⟩ := Except.ok_of_bind h
  obtain ⟨deadlineMs, hms, h⟩ := Except.ok_of_bind h
  obtain ⟨replyDeadline, hreply, -⟩ := Except.ok_of_bind h
  simp only [submitTurn, hinput, hms, hreply, Except.ok_bind]
  cases response with
  | cancel s t cancelled => simp
  | turn result' =>
      simp only [WireResponse.turn.injEq]
      split_ifs with hid
      · constructor
        · rintro ⟨⟩
          exact ⟨rfl, hid⟩
        · rintro ⟨rfl, -⟩
          rfl
      · constructor
        · intro herror
          cases herror
        · rintro ⟨rfl, hid'⟩
          exact absurd hid' hid

/-- A submit that returns a result sent its request. -/
theorem AgentConversationClient.submitRequest_of_submitTurn {client : AgentConversationClient}
    {turnId : TurnId} {input : String} {deadline : Duration} {reply : Reply} {result : TurnResult}
    (h : client.submitTurn turnId input deadline reply = .ok result) :
    ∃ request, client.submitRequest turnId input deadline = .ok request := by
  rw [submitTurn] at h
  obtain ⟨_, hinput, h⟩ := Except.ok_of_bind h
  obtain ⟨deadlineMs, hms, h⟩ := Except.ok_of_bind h
  obtain ⟨replyDeadline, hreply, -⟩ := Except.ok_of_bind h
  rw [submitRequest, hinput, hms, hreply]
  exact ⟨_, rfl⟩

/-- The client takes an answer to its own cancellation, and no other. -/
theorem AgentConversationClient.cancel_iff (client : AgentConversationClient) (turnId : TurnId)
    (response : WireResponse) (result : CancelResult) :
    client.cancel turnId (.ok response) = .ok result ↔
      response = .cancel client.sessionId turnId result := by
  simp only [cancel, Except.ok_bind]
  cases response with
  | turn result' => simp
  | cancel s t result' =>
      simp only [WireResponse.cancel.injEq]
      split_ifs with hid
      · constructor
        · rintro ⟨⟩
          exact ⟨hid.1, hid.2, rfl⟩
        · rintro ⟨-, -, rfl⟩
          rfl
      · constructor
        · intro herror
          cases herror
        · rintro ⟨hs, ht, -⟩
          exact absurd ⟨hs, ht⟩ hid

/-- The request of every submit the client accepts, and of every cancellation, fits, is
read back as it was, passes the checks of the service, with the deadline rounded down to
milliseconds, and is answered with bytes the client reads back and takes.  Every answer is
read back as it was, and an answer of another kind, session or Turn is an error. -/
theorem AgentConversationClient.agrees_with_server (client : AgentConversationClient)
    (turnId : TurnId) (handle : HandleAnswers) (detail : String) :
    (∀ input deadline request replyDeadline,
      client.submitRequest turnId input deadline = .ok (request, replyDeadline) →
      ∃ deadlineMs, request.toJson.encode.length ≤ 64 * 1024 ∧
        (decode request.toJson.encode).bind WireRequest.ofJson =
          some (.submit client.sessionId turnId input deadlineMs) ∧
        validateInput input = .ok () ∧ validateTurnDeadline (.fromMillis deadlineMs) = .ok () ∧
        .fromMillis deadlineMs ≤ deadline ∧
        deadline < .fromMillis deadlineMs + .fromMillis 1 ∧
        ∀ terminal, handle.submitTurn client.sessionId turnId input (.fromMillis deadlineMs) =
            .ok ⟨client.sessionId, turnId, terminal⟩ →
          ∃ response, serveWireRequest handle detail request.toJson.encode = .ok response ∧
            client.submitTurn turnId input deadline (decodeReply detail response) =
              .ok ⟨client.sessionId, turnId, terminal⟩) ∧
    ((client.cancelRequest turnId).toJson.encode.length ≤ 64 * 1024 ∧
      (decode (client.cancelRequest turnId).toJson.encode).bind WireRequest.ofJson =
        some (.cancel client.sessionId turnId) ∧
      ∀ result, handle.cancel client.sessionId turnId = .ok result →
        ∃ response, serveWireRequest handle detail (client.cancelRequest turnId).toJson.encode =
            .ok response ∧
          client.cancel turnId (decodeReply detail response) = .ok result) ∧
    (∀ response, decodeReply detail response.toJson.encode = .ok response) ∧
    ∀ payload response, decodeReply detail payload = .ok response →
      (∀ input deadline,
        (∀ result, response = .turn result →
          ¬ (result.sessionId = client.sessionId ∧ result.turnId = turnId)) →
        ∃ error, client.submitTurn turnId input deadline (decodeReply detail payload) =
          .error error) ∧
      ((∀ result, response ≠ .cancel client.sessionId turnId result) →
        ∃ error, client.cancel turnId (decodeReply detail payload) = .error error) := by
  refine ⟨?_, ⟨?_, ?_, ?_⟩, decodeReply_encode detail, ?_⟩
  · intro input deadline request replyDeadline h
    have haccept := h
    rw [submitRequest] at h
    obtain ⟨_, hinput, h⟩ := Except.ok_of_bind h
    obtain ⟨deadlineMs, hms, h⟩ := Except.ok_of_bind h
    obtain ⟨_, -, h⟩ := Except.ok_of_bind h
    cases h
    obtain ⟨hrange, hle, hlt⟩ := wireDeadlineMs_ok hms
    have hread := WireRequest.ofJson_submit client.sessionId turnId input
      (show deadlineMs < 2 ^ 64 by omega)
    refine ⟨deadlineMs, ?_, ?_, hinput, validateTurnDeadline_fromMillis hrange, hle, hlt, ?_⟩
    · rw [length_encode]
      exact WireRequest.encodedLen_submit _ _ hinput hrange.2
    · rw [decode_encode, Option.bind_some, hread]
    · intro terminal hhandle
      have hrespond : handle.respond (.submit client.sessionId turnId input deadlineMs) =
          .ok (.turn ⟨client.sessionId, turnId, terminal⟩) := by
        rw [HandleAnswers.respond, hhandle]
        rfl
      refine ⟨_, serveWireRequest_encode detail hread hrespond, ?_⟩
      rw [decodeReply_encode]
      exact (submitTurn_iff haccept _ _).mpr ⟨rfl, rfl, rfl⟩
  · rw [length_encode]
    exact WireRequest.encodedLen_cancel _ _
  · rw [decode_encode, Option.bind_some]
    exact WireRequest.ofJson_cancel _ _
  · intro result hhandle
    have hrespond : handle.respond (client.cancelRequest turnId) =
        .ok (.cancel client.sessionId turnId result) := by
      rw [cancelRequest, HandleAnswers.respond, hhandle]
      rfl
    refine ⟨_, serveWireRequest_encode detail (WireRequest.ofJson_cancel _ _) hrespond, ?_⟩
    rw [decodeReply_encode]
    exact (client.cancel_iff turnId _ _).mpr rfl
  · intro payload response hdecode
    rw [hdecode]
    refine ⟨fun input deadline hother => ?_, fun hother => ?_⟩
    · cases hsubmit : client.submitTurn turnId input deadline (.ok response) with
      | error error => exact ⟨error, rfl⟩
      | ok result =>
          obtain ⟨request, haccept⟩ := submitRequest_of_submitTurn hsubmit
          obtain ⟨rfl, hid⟩ := (submitTurn_iff haccept response result).mp hsubmit
          exact absurd hid (hother result rfl)
    · cases hcancel : client.cancel turnId (.ok response) with
      | error error => exact ⟨error, rfl⟩
      | ok result => exact absurd ((client.cancel_iff turnId _ _).mp hcancel) (hother result)

end Paraegox.Agent
