import Paraegox.Cli.TuiOptions
import Paraegox.Kernel.UuidParse
import Paraegox.Textual.Inputs

/-!
# How the client starts its adapter

`_command` is what the client executes, `parse_command` reads it, and the first line of the
adapter is the ready frame `_accept_ready` waits for.  After it both sides stand where a
conversation starts.
-/

namespace Paraegox.Textual

open Agent (SessionId)
open Cli (parseCommand parseNodeId)
open Stdio (Adapter OutputFrame Request)

/-- `_command`. -/
def command (paraegoxBin target endpoint : String) (timeoutMs : Nat) : List String :=
  [paraegoxBin, "tui", "--stdio-jsonl", "--target", target, "--connect", endpoint,
    "--timeout-ms", toString timeoutMs]

def READY_FIELDS : List String :=
  ["v", "type", "session_id", "turn_timeout_ms", "max_input_bytes"]

/-- An integer that is equal to this one; `True` is equal to `1`. -/
def isInteger (n : Nat) : Option Json → Bool
  | some (.num m) => m = n
  | some (.bool value) => value.toNat = n
  | _ => false

/-- This text. -/
def isText (text : String) : Option Json → Bool
  | some (.str value) => value = text
  | _ => false

/-- `_accept_ready`, with the deadline the client has configured. -/
def acceptReady (configuredTimeoutMs : Nat) (frame : Frame) : Except BackendError String := do
  requireExactFields frame READY_FIELDS "ready"
  if ¬ isInteger PROTOCOL_VERSION (frame.lookup "v") ∨
      ¬ isText "ready" (frame.lookup "type") then
    .error ⟨"Paraegox backend did not send a v1 ready frame"⟩
  else do
    let sessionId ← canonicalUuid (frame.lookup "session_id") "ready session_id"
    if ¬ isInteger configuredTimeoutMs (frame.lookup "turn_timeout_ms") then
      .error ⟨"Paraegox backend reported a different Turn deadline"⟩
    else if ¬ isInteger MAX_INPUT_BYTES (frame.lookup "max_input_bytes") then
      .error ⟨"Paraegox backend reported an unsupported input limit"⟩
    else .ok sessionId

/-! ## The command line -/

/-- A number is read back from its decimal digits. -/
theorem parseU64_toString {n : Nat} (h : n < 2 ^ 64) : Cli.parseU64 (toString n) = some n := by
  have hdigits : ∀ c ∈ Nat.toDigits 10 n, c.isDigit = true := fun c hc =>
    Nat.isDigit_of_mem_toDigits (by decide) (by decide) hc
  have hnumber : (Nat.toDigits 10 n).foldl
      (fun number digit => 10 * number + (digit.toNat - '0'.toNat)) 0 = n :=
    Nat.ofDigitChars_eq_foldl.symm.trans Nat.ofDigitChars_ten_toDigits
  rw [Cli.parseU64, Nat.toString_eq_repr, Nat.toList_repr]
  obtain ⟨c, cs, hcs⟩ := List.exists_cons_of_ne_nil (Nat.toDigits_ne_nil (n := n) (b := 10))
  rw [hcs] at hdigits hnumber ⊢
  have hplus : c ≠ '+' := by
    rintro rfl
    exact absurd (hdigits '+' List.mem_cons_self) (by decide)
  split
  next heq =>
    exact absurd (List.cons.inj heq).1 hplus
  · rw [if_neg (not_or.mpr ⟨List.cons_ne_nil _ _, not_not.mpr (List.all_eq_true.mpr hdigits)⟩),
      hnumber]
    exact if_pos h

/-- A round of the loop of `parse_tui` on an option with a value. -/
theorem readAll_pair {options : Cli.TuiOptions} {name : String} (h : name ≠ "--stdio-jsonl")
    (value : String) (arguments : List String) :
    options.readAll (name :: value :: arguments) = (do
      let target ← options.toTargetOptions.read "tui" name value
      Cli.TuiOptions.readAll { options with toTargetOptions := target } arguments) := by
  rw [Cli.TuiOptions.readAll, if_neg h]

/-- The binary reads the client's command line. -/
theorem parseCommand_command (paraegoxBin target endpoint : String) {timeoutMs : Nat}
    (h : 100 ≤ timeoutMs ∧ timeoutMs ≤ 60000) :
    parseCommand (command paraegoxBin target endpoint timeoutMs).tail =
      (parseNodeId target).map fun nodeId => .tui nodeId endpoint timeoutMs true := by
  have htimeout : Cli.parseTimeoutMs (toString timeoutMs) = .ok timeoutMs := by
    have hlt : timeoutMs < 2 ^ 64 := Nat.lt_of_le_of_lt h.2 (by decide)
    rw [Cli.parseTimeoutMs, parseU64_toString hlt]
    exact if_pos h
  have hparse : parseCommand (command paraegoxBin target endpoint timeoutMs).tail =
      Cli.parseTui ["--stdio-jsonl", "--target", target, "--connect", endpoint, "--timeout-ms",
        toString timeoutMs] := by
    rw [command, List.tail_cons, parseCommand]
    simp
  rw [hparse, Cli.parseTui, Cli.TuiOptions.readAll.eq_def]
  dsimp only
  rw [if_pos rfl, if_neg Bool.false_ne_true, readAll_pair (by decide),
    Cli.TargetOptions.read_target]
  cases parseNodeId target with
  | error error => rfl
  | ok nodeId =>
      simp only [Option.isNone_none, ↓reduceIte, Except.ok_bind, pure_bind]
      rw [readAll_pair (by decide)]
      simp only [Cli.TargetOptions.read_connect, Except.ok_bind, Bool.false_eq_true,
        not_false_eq_true, ↓reduceIte, pure_bind]
      rw [readAll_pair (by decide)]
      simp only [Cli.TargetOptions.read_timeoutMs, htimeout, Except.ok_bind, Bool.false_eq_true,
        not_false_eq_true, ↓reduceIte, pure_bind]
      rfl

/-! ## The ready frame -/

theorem digit_of_isHexDigit {c : Char} (h : isHexDigit c = true) :
    ∃ d < 16, Nat.digitChar d = c.toLower := by
  have hall : ∀ n < 128, isHexDigit (Char.ofNat n) = true →
      ∃ d < 16, Nat.digitChar d = (Char.ofNat n).toLower := by decide
  have hlt : c.toNat < 128 := by
    simp only [isHexDigit, Bool.or_eq_true, Bool.and_eq_true, decide_eq_true_eq, Char.le_def,
      UInt32.le_iff_toNat_le] at h
    simp at h
    have : c.toNat = c.val.toNat := rfl
    omega
  rw [← Char.ofNat_toNat c] at h ⊢
  exact hall c.toNat hlt h

/-- A text the client takes for canonical is that of an identifier. -/
theorem exists_uuid_of_canonicalUuid {value : Option Json} {description canonical : String}
    (h : canonicalUuid value description = .ok canonical) :
    value = some (.str canonical) ∧ ∃ u : Uuid, u.hyphenated = canonical := by
  rw [canonicalUuid.eq_def] at h
  split at h
  next text =>
    split at h
    · cases h
    next canonical' htext =>
      rw [Except.error_ite_eq_ok, not_not] at h
      obtain ⟨rfl, hcanonical⟩ := h
      cases hcanonical
      refine ⟨rfl, ?_⟩
      rw [uuidText] at htext
      split_ifs at htext with hhex
      obtain ⟨u, hu⟩ := Uuid.exists_digits (List.map Char.toLower _)
        (by rw [List.length_map]; exact hhex.1) (by
          intro c hc
          obtain ⟨c, hmem, rfl⟩ := List.mem_map.mp hc
          exact digit_of_isHexDigit (List.all_eq_true.mp hhex.2 c hmem))
      exact ⟨u, by rw [Uuid.hyphenated, hu]; exact Option.some.inj htext⟩
  · cases h

/-- What the client checks of a frame before it takes its Session. -/
structure Ready (configuredTimeoutMs : Nat) (frame : Frame) (sessionId : SessionId) : Prop where
  fields : requireExactFields frame READY_FIELDS "ready" = .ok ()
  version : isInteger PROTOCOL_VERSION (frame.lookup "v") = true
  type : isText "ready" (frame.lookup "type") = true
  session : frame.lookup "session_id" = some sessionId.toJson
  deadline : isInteger configuredTimeoutMs (frame.lookup "turn_timeout_ms") = true
  inputLimit : isInteger MAX_INPUT_BYTES (frame.lookup "max_input_bytes") = true

/-- The Session is taken just from a frame that passes, by the text of its identifier. -/
theorem acceptReady_eq_ok_iff {configuredTimeoutMs : Nat} {frame : Frame} {sessionId : String} :
    acceptReady configuredTimeoutMs frame = .ok sessionId ↔
      ∃ id : SessionId, sessionId = id.uuid.hyphenated ∧ Ready configuredTimeoutMs frame id := by
  constructor
  · intro h
    rw [acceptReady] at h
    obtain ⟨_, hfields, h⟩ := Except.ok_of_bind h
    rw [Except.error_ite_eq_ok, not_or, not_not, not_not] at h
    obtain ⟨⟨hversion, htype⟩, h⟩ := h
    obtain ⟨canonical, hsession, h⟩ := Except.ok_of_bind h
    rw [Except.error_ite_eq_ok, Except.error_ite_eq_ok, not_not, not_not] at h
    obtain ⟨hdeadline, hlimit, h⟩ := h
    cases h
    obtain ⟨hlookup, u, rfl⟩ := exists_uuid_of_canonicalUuid hsession
    exact ⟨⟨u⟩, rfl, hfields, hversion, htype, hlookup, hdeadline, hlimit⟩
  · rintro ⟨id, rfl, h⟩
    rw [acceptReady, h.fields, h.session]
    simp only [Except.ok_bind, h.version, h.type, h.deadline, h.inputLimit, not_true_eq_false,
      or_self, ↓reduceIte, Agent.SessionId.toJson, canonicalUuid_hyphenated]

/-- The fields of the adapter's ready frame. -/
theorem ready_iff {configuredTimeoutMs turnTimeoutMs : Nat} (sessionId id : SessionId)
    {fields : Frame} (h : (OutputFrame.ready Stdio.PROTOCOL_VERSION sessionId turnTimeoutMs
      Stdio.MAX_INPUT_BYTES).toJson = .obj fields) :
    Ready configuredTimeoutMs fields id ↔ id = sessionId ∧ configuredTimeoutMs = turnTimeoutMs := by
  cases h
  constructor
  · rintro ⟨-, -, -, hsession, hdeadline, -⟩
    have hid : Uuid.fromStr sessionId.uuid.hyphenated = Uuid.fromStr id.uuid.hyphenated :=
      congrArg Uuid.fromStr (Json.str.inj (Option.some.inj hsession))
    rw [Uuid.fromStr_hyphenated, Uuid.fromStr_hyphenated] at hid
    refine ⟨?_, ?_⟩
    · obtain ⟨u⟩ := id
      exact congrArg SessionId.mk (Option.some.inj hid).symm
    · exact (of_decide_eq_true hdeadline).symm
  · rintro ⟨rfl, rfl⟩
    have hdeadline : isInteger configuredTimeoutMs (some (.num configuredTimeoutMs)) = true :=
      decide_eq_true rfl
    exact ⟨rfl, rfl, rfl, rfl, hdeadline, rfl⟩

/-- The ready frame has room in its line. -/
theorem ready_fits (sessionId : SessionId) {turnTimeoutMs : Nat} (h : turnTimeoutMs ≤ 60000) :
    (OutputFrame.ready Stdio.PROTOCOL_VERSION sessionId turnTimeoutMs
      Stdio.MAX_INPUT_BYTES).toJson.encodedLen ≤ MAX_STDOUT_FRAME_BYTES := by
  have hroom : MAX_STDOUT_FRAME_BYTES = 65536 := rfl
  have hnum : (Json.num turnTimeoutMs).encodedLen ≤ 5 :=
    Json.encodedLen_num_le (by decide) (Nat.lt_of_le_of_lt h (by decide))
  have hversion := encodedLen_version_le Stdio.PROTOCOL_VERSION
  have hlimit : (Json.num Stdio.MAX_INPUT_BYTES).encodedLen ≤ 4 :=
    Json.encodedLen_num_le (by decide) (by decide)
  have hnames : Json.namesLen ["type", "v", "session_id", "turn_timeout_ms", "max_input_bytes"] =
      66 := by decide
  have hready : (Json.str "ready").encodedLen = 7 := by decide
  rw [OutputFrame.toJson, Json.encodedLen_obj]
  simp only [List.map_cons, List.map_nil, List.sum_cons, List.sum_nil, hnames, hready,
    SessionId.encodedLen_toJson]
  omega

/-! ## Where both sides stand then -/

/-- What the client does with the first line of its adapter. -/
def receiveReady (configuredTimeoutMs : Nat) (line : Json) : Except BackendError String := do
  let frame ← Backend.readFrame line
  acceptReady configuredTimeoutMs frame

theorem receiveReady_ready {configuredTimeoutMs turnTimeoutMs : Nat} {sessionId : SessionId}
    (h : turnTimeoutMs ≤ 60000) (text : String) :
    receiveReady configuredTimeoutMs (OutputFrame.ready Stdio.PROTOCOL_VERSION sessionId
      turnTimeoutMs Stdio.MAX_INPUT_BYTES).toJson = .ok text ↔
      text = sessionId.uuid.hyphenated ∧ configuredTimeoutMs = turnTimeoutMs := by
  have hread : Backend.readFrame (OutputFrame.ready Stdio.PROTOCOL_VERSION sessionId
      turnTimeoutMs Stdio.MAX_INPUT_BYTES).toJson = .ok _ :=
    if_neg (Nat.not_lt.mpr (ready_fits sessionId h))
  rw [receiveReady, hread, Except.ok_bind, acceptReady_eq_ok_iff]
  constructor
  · rintro ⟨id, rfl, hready⟩
    obtain ⟨rfl, htimeout⟩ := (ready_iff sessionId id rfl).mp hready
    exact ⟨rfl, htimeout⟩
  · rintro ⟨rfl, rfl⟩
    exact ⟨sessionId, rfl, (ready_iff sessionId sessionId rfl).mpr ⟨rfl, rfl⟩⟩

/-- A line that is written or not, as a value. -/
theorem attempt_send (frame : OutputFrame) :
    (Dialogue.attempt (Stdio.send frame)).run = .ask (.write frame) fun write =>
      .pure (.ok ((Stdio.JsonlOutput.send frame write).mapError .io)) := by
  refine congrArg (Dialogue.ask (Request.write frame)) (funext fun write => ?_)
  cases hsend : Stdio.JsonlOutput.send frame write with
  | error error =>
      show Dialogue.bind (Stdio.io (Stdio.JsonlOutput.send frame write)).run _ = _
      rw [hsend]
      rfl
  | ok _ =>
      show Dialogue.bind (Stdio.io (Stdio.JsonlOutput.send frame write)).run _ = _
      rw [hsend]
      rfl

/-- The adapter first writes its ready frame, and is then where a conversation starts. -/
theorem opening_ready (sessionId : SessionId) {timeoutMs : Nat} (h : timeoutMs ≤ 60000) :
    ∃ k, (Adapter.mk sessionId (timeoutMs * 1000000)).runTextualStdio.resume .opening =
        .ask (.write (.ready Stdio.PROTOCOL_VERSION sessionId timeoutMs Stdio.MAX_INPUT_BYTES)) k ∧
      k (.ok ()) = (Conversation.start ⟨sessionId, timeoutMs * 1000000⟩).adapter := by
  have hmillis : Stdio.durationMillis (timeoutMs * 1000000) = .ok timeoutMs := by
    rw [Stdio.durationMillis, Nat.mul_div_cancel _ (by decide)]
    exact if_pos (Nat.lt_of_le_of_lt h (by decide))
  have hsend : Stdio.JsonlOutput.send (.ready Stdio.PROTOCOL_VERSION sessionId timeoutMs
      Stdio.MAX_INPUT_BYTES) (.ok ()) = .ok () :=
    if_neg (Nat.not_lt.mpr (ready_fits sessionId h))
  have hattempt := attempt_send (.ready Stdio.PROTOCOL_VERSION sessionId timeoutMs
    Stdio.MAX_INPUT_BYTES)
  -- where the ready frame is written, it goes on with the conversation
  obtain ⟨goOn, hopen, hgoOn⟩ : ∃ goOn,
      (Adapter.mk sessionId (timeoutMs * 1000000)).openConversation.run =
        .ask (.write (.ready Stdio.PROTOCOL_VERSION sessionId timeoutMs Stdio.MAX_INPUT_BYTES))
          (fun write => Dialogue.bind (.pure (.ok ((Stdio.JsonlOutput.send (.ready
            Stdio.PROTOCOL_VERSION sessionId timeoutMs Stdio.MAX_INPUT_BYTES) write).mapError
              Stdio.AdapterError.io))) (ExceptT.bindCont goOn)) ∧
        goOn (.ok ()) = pure .protocol := by
    apply Exists.intro
    apply And.intro
    · rw [Adapter.openConversation, hmillis]
      exact congrArg (fun d => Dialogue.bind d _) hattempt
    · rfl
  have hresume : (Adapter.mk sessionId (timeoutMs * 1000000)).runTextualStdio.resume .opening =
      Dialogue.bind (Adapter.mk sessionId (timeoutMs * 1000000)).openConversation.run
        fun r => .pure (Adapter.pointOf (fun error => .exited (.error error)) r) := rfl
  rw [hresume, hopen]
  refine ⟨_, rfl, ?_⟩
  dsimp only
  rw [hsend]
  show Dialogue.bind (goOn (.ok ())) _ = _
  rw [hgoOn]
  rfl

/-- Whatever target, endpoint and deadline the client is given: the binary takes its command
line just where the target is a Node id, and starts the adapter for them.  What that adapter
says first is what the client waits for, with no other deadline, and then both stand where a
conversation starts.  A client that takes another frame has read a ready frame of its
protocol and deadline all the same, and a canonical Session in it. -/
theorem client_and_adapter_meet (paraegoxBin target endpoint : String) (timeoutMs : Nat)
    (h : 100 ≤ timeoutMs ∧ timeoutMs ≤ 60000) :
    parseCommand (command paraegoxBin target endpoint timeoutMs).tail =
        (parseNodeId target).map (fun nodeId => .tui nodeId endpoint timeoutMs true) ∧
      (∀ sessionId : SessionId, ∃ frame k,
        (Adapter.mk sessionId (timeoutMs * 1000000)).runTextualStdio.resume .opening =
          .ask (.write frame) k ∧
        k (.ok ()) = (Conversation.start ⟨sessionId, timeoutMs * 1000000⟩).adapter ∧
        Conversation.put frame = [frame] ∧
        ∀ configuredTimeoutMs text, receiveReady configuredTimeoutMs frame.toJson = .ok text ↔
          text = sessionId.uuid.hyphenated ∧ configuredTimeoutMs = timeoutMs) ∧
      ∀ line text, receiveReady timeoutMs line = .ok text → ∃ frame sessionId,
        line = .obj frame ∧ text = sessionId.uuid.hyphenated ∧ Ready timeoutMs frame sessionId := by
  refine ⟨parseCommand_command paraegoxBin target endpoint h, fun sessionId => ?_, ?_⟩
  · obtain ⟨k, hresume, hstart⟩ := opening_ready sessionId h.2
    refine ⟨_, k, hresume, hstart, ?_, fun configuredTimeoutMs text =>
      receiveReady_ready h.2 text⟩
    have hsend : Stdio.JsonlOutput.send (.ready Stdio.PROTOCOL_VERSION sessionId timeoutMs
        Stdio.MAX_INPUT_BYTES) (.ok ()) = .ok () :=
      if_neg (Nat.not_lt.mpr (ready_fits sessionId h.2))
    rw [Conversation.put, hsend]
  · intro line text hline
    obtain ⟨frame, hread, haccept⟩ := Except.ok_of_bind hline
    obtain ⟨sessionId, htext, hready⟩ := acceptReady_eq_ok_iff.mp haccept
    refine ⟨frame, sessionId, ?_, htext, hready⟩
    rw [Backend.readFrame.eq_def, Except.error_ite_eq_ok] at hread
    cases line with
    | obj fields => exact congrArg Json.obj (Except.ok.inj hread.2)
    | _ => cases hread.2

/-- With the deadline the client has by itself. -/
theorem client_and_adapter_meet_default :
    parseCommand (command "paraegox" "node-a" "tcp/127.0.0.1:7447" 30000).tail =
      (parseNodeId "node-a").map fun nodeId => .tui nodeId "tcp/127.0.0.1:7447" 30000 true :=
  (client_and_adapter_meet "paraegox" "node-a" "tcp/127.0.0.1:7447" 30000 (by decide)).1

end Paraegox.Textual
