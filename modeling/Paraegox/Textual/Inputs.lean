import Paraegox.Agent.Content
import Paraegox.Textual.Requests

/-!
# The inputs of the two sides

`validate_input` exists in both languages.  The two sets of blank characters differ in
four controls, which both sides refuse anyway.  An input that is accepted makes a line
the adapter has room for and reads back.
-/

namespace Paraegox.Textual

open Agent (SessionId TurnId)
open Stdio (Feed FeedAction FeedReport FrameResult InputFrame MAX_INPUT_FRAME_BYTES NEWLINE
  jsonLines nextCommand)

/-! ## The same inputs -/

/-- The two notions of a blank differ in controls only. -/
theorem isSpace_eq_isWhitespace {c : Char} (h : isControl c = false) :
    isSpace c = isWhitespace c := by
  simp only [isControl, Bool.or_eq_false_iff, decide_eq_false_iff_not, Nat.not_lt] at h
  have hlow : (decide (0x1c ≤ c.toNat) && decide (c.toNat ≤ 0x1f)) = false := by
    simp only [Bool.and_eq_false_iff, decide_eq_false_iff_not]
    omega
  rw [isSpace, hlow, Bool.or_false]

/-- The checks both sides make, in one order, with their own blanks and errors. -/
theorem inputChecks_iff {ε : Type} {blank : Char → Bool} {input : String} {maxBytes : Nat}
    {empty long control : ε} :
    (if ((input.toList.dropWhile blank).rdropWhile blank).isEmpty then .error empty
      else if maxBytes < input.utf8ByteSize then .error long
      else if input.toList.any isControl then .error control
      else Except.ok ()) = .ok () ↔
      (¬ ∀ c ∈ input.toList, blank c = true) ∧ input.utf8ByteSize ≤ maxBytes ∧
        ∀ c ∈ input.toList, isControl c = false := by
  have hempty : ((input.toList.dropWhile blank).rdropWhile blank).isEmpty = true ↔
      ∀ c ∈ input.toList, blank c = true := by
    rw [List.isEmpty_iff, rdropWhile_dropWhile_eq_nil]
  rw [← hempty]
  split_ifs with hblank hlen hcontrol
  · simp [hblank]
  · simp [Nat.not_le.mpr hlen]
  · obtain ⟨c, hc, hcontrol⟩ := List.any_eq_true.mp hcontrol
    refine iff_of_false nofun ?_
    intro h
    rw [h.2.2 c hc] at hcontrol
    cases hcontrol
  · refine iff_of_true rfl ⟨hblank, Nat.not_lt.mp hlen, fun c hc => ?_⟩
    exact Bool.eq_false_of_not_eq_true fun h => hcontrol (List.any_eq_true.mpr ⟨c, hc, h⟩)

theorem validateInput_iff {text : String} {maxBytes : Nat} :
    validateInput text maxBytes = .ok () ↔
      (¬ ∀ c ∈ text.toList, isSpace c = true) ∧ text.utf8ByteSize ≤ maxBytes ∧
        ∀ c ∈ text.toList, isControl c = false :=
  inputChecks_iff

theorem agentValidateInput_iff {input : String} :
    Agent.validateInput input = .ok () ↔
      (¬ ∀ c ∈ input.toList, isWhitespace c = true) ∧
        input.utf8ByteSize ≤ Agent.MAX_INPUT_BYTES ∧ ∀ c ∈ input.toList, isControl c = false :=
  inputChecks_iff

/-- Both sides accept the same inputs. -/
theorem validateInput_iff_agent (text : String) :
    validateInput text MAX_INPUT_BYTES = .ok () ↔ Agent.validateInput text = .ok () := by
  rw [validateInput_iff, agentValidateInput_iff]
  refine and_congr_left fun hplain => not_congr ?_
  exact forall₂_congr fun c hc => by rw [isSpace_eq_isWhitespace (hplain.2 c hc)]

/-! ## The lines of a cancel and a submit -/

/-- A version is written in three digits at most. -/
theorem encodedLen_version_le (v : UInt8) : (Json.num v.toNat).encodedLen ≤ 3 :=
  Json.encodedLen_num_le (by decide) (v.toNat_lt.trans (by decide))

/-- A cancel has room in its frame. -/
theorem fitting_cancel (v : UInt8) (sessionId : SessionId) (turnId : TurnId) :
    Fitting (.cancel v sessionId turnId) := by
  have hroom : Stdio.MAX_INPUT_FRAME_BYTES = 16384 := rfl
  have hnum := encodedLen_version_le v
  have hnames : Json.namesLen ["v", "type", "session_id", "turn_id"] = 39 := by decide
  have hcancel : (Json.str "cancel").encodedLen = 8 := by decide
  rw [Fitting, requestJson, Json.encodedLen_obj]
  simp only [List.map_cons, List.map_nil, List.sum_cons, List.sum_nil, hnames, hcancel,
    SessionId.encodedLen_toJson, TurnId.encodedLen_toJson]
  omega

/-- An accepted input leaves room in the frame. -/
theorem fitting_submit {text : String} (h : validateInput text MAX_INPUT_BYTES = .ok ())
    (v : UInt8) (sessionId : SessionId) (turnId : TurnId) :
    Fitting (.submit v sessionId turnId text) := by
  have hquote := Agent.quoteLen_input ((validateInput_iff_agent text).mp h)
  have hmax : Agent.MAX_INPUT_BYTES = 4096 := rfl
  have hroom : MAX_INPUT_FRAME_BYTES = 16384 := rfl
  have hnum := encodedLen_version_le v
  have hnames : Json.namesLen ["v", "type", "session_id", "turn_id", "input"] = 48 := by decide
  have hsubmit : (Json.str "submit").encodedLen = 8 := by decide
  rw [Fitting, requestJson, Json.encodedLen_obj]
  simp only [List.map_cons, List.map_nil, List.sum_cons, List.sum_nil, hnames, hsubmit,
    SessionId.encodedLen_toJson, TurnId.encodedLen_toJson, Json.encodedLen_str]
  omega

/-- A backend without a Turn takes an accepted input: its frame is written, or it waits
behind the others for the lock. -/
theorem Backend.submit_accepted {b : Backend} {text : String} (turnId : TurnId)
    (hidle : b.activeTurnId = none) (h : validateInput text MAX_INPUT_BYTES = .ok ()) :
    (b.submit text turnId).result = none ∧
      (b.submit text turnId).backend.activeTurnId = some turnId ∧
      (b.submit text turnId).written ++
          (b.submit text turnId).backend.waiters.map Writer.frame =
        b.waiters.map Writer.frame ++
          [.submit Stdio.PROTOCOL_VERSION b.sessionId turnId text] := by
  obtain ⟨b', written, hwrite⟩ :=
    { b with activeTurnId := some turnId, cancelSent := false }.writeFrame_fitting
      (w := ⟨.submit 1 b.sessionId turnId text, .submitReturns⟩) (fitting_submit h _ _ _)
  obtain ⟨-, -, hactive, hqueue⟩ := writeFrame_spec hwrite
  have hsubmit : b.submit text turnId = ⟨none, b', written⟩ := by
    simp only [submit, hidle, Option.isSome_none, Bool.false_eq_true, ↓reduceIte, h, hwrite]
  rw [hsubmit]
  exact ⟨rfl, hactive, hqueue⟩

/-- Python and Rust accept the same inputs, and the line that is written for an accepted
one fits the adapter's frame and is read back as it was, behind any other lines. -/
theorem accepted_inputs_agree :
    (∀ text, validateInput text MAX_INPUT_BYTES = .ok () ↔ Agent.validateInput text = .ok ()) ∧
    ∀ (b : Backend) (text : String) (turnId : TurnId) (frame : InputFrame),
      frame = .submit Stdio.PROTOCOL_VERSION b.sessionId turnId text → b.activeTurnId = none →
      validateInput text MAX_INPUT_BYTES = .ok () →
      ((b.submit text turnId).result = none ∧
        (b.submit text turnId).written ++
            (b.submit text turnId).backend.waiters.map Writer.frame =
          b.waiters.map Writer.frame ++ [frame]) ∧
      (requestJson frame).encode.length ≤ 16384 ∧ NEWLINE ∉ (requestJson frame).encode ∧
      ∀ before rest, (∀ value ∈ before, value.encode.length ≤ MAX_INPUT_FRAME_BYTES) →
        ∀ stream, stream = jsonLines before ++ ((requestJson frame).encode ++ NEWLINE :: rest) →
        (∃ reads feed result, Stdio.framing.Run (.start stream) reads feed ∧
          (reads.filterMap fun x => x.report.result?)[before.length]? = some result) ∧
        ∀ reads feed result, Stdio.framing.Run (.start stream) reads feed →
          (reads.filterMap fun x => x.report.result?)[before.length]? = some result →
          nextCommand result = .ok (some frame) := by
  refine ⟨validateInput_iff_agent, ?_⟩
  rintro b text turnId frame rfl hidle haccepted
  have hfits := fitting_submit haccepted Stdio.PROTOCOL_VERSION b.sessionId turnId
  obtain ⟨hresult, -, hqueue⟩ := Backend.submit_accepted turnId hidle haccepted
  refine ⟨⟨hresult, hqueue⟩, ?_, Stdio.newline_notMem_encode _, ?_⟩
  · rw [Json.length_encode]
    exact hfits
  · rintro before rest hbefore stream rfl
    refine ⟨?_, fun reads feed result hrun hk => ?_⟩
    · obtain ⟨reads, feed, hrun, -, -, hlen⟩ := Feed.exists_results (jsonLines before ++
        ((requestJson _).encode ++ NEWLINE :: rest)) (before.length + 1)
      exact ⟨reads, feed, _, hrun, List.getElem?_eq_getElem (by omega)⟩
    · have hline := Feed.result_jsonLine
        (fun value hvalue => (Json.length_encode value).symm.trans_le (hbefore value hvalue))
        hfits hrun hk
      rw [hline]
      exact Stdio.nextCommand_encode (ofJson_requestJson _)

/-- Quotes, a backslash and characters outside ASCII, on a fresh backend. -/
theorem accepted_inputs_agree_escaped :
    Agent.validateInput "say \"né\" \\ 语" = .ok () ∧
      (requestJson (.submit 1 ⟨⟨1⟩⟩ ⟨⟨2⟩⟩ "say \"né\" \\ 语")).encode.length ≤ 16384 := by
  have haccepted : validateInput "say \"né\" \\ 语" MAX_INPUT_BYTES = .ok () := by decide +kernel
  exact ⟨(accepted_inputs_agree.1 _).mp haccepted,
    (accepted_inputs_agree.2 (.started ⟨⟨1⟩⟩) _ ⟨⟨2⟩⟩ _ rfl rfl haccepted).2.1⟩

end Paraegox.Textual
