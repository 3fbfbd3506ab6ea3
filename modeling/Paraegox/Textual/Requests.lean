import Paraegox.Stdio.Input
import Paraegox.Textual.ConversationMetatheory

/-!
# What the client writes

The object a request is written as decodes to that request, and `_write_frame` lets
through only what the adapter has room for.
-/

namespace Paraegox.Textual

open Agent (SessionId TurnId)
open Stdio (InputFrame)

/-- The adapter reads back the request the client wrote. -/
theorem ofJson_requestJson (frame : InputFrame) :
    InputFrame.ofJson (requestJson frame) = some frame := by
  cases frame with
  | submit v sessionId turnId input =>
      simp [InputFrame.ofJson, requestJson, Json.toFields, Json.field, Json.textField, Json.toText,
        Json.onlyFields, Json.toU8_toNat, SessionId.ofJson_toJson, TurnId.ofJson_toJson]
  | cancel v sessionId turnId =>
      simp [InputFrame.ofJson, requestJson, Json.toFields, Json.field, Json.textField, Json.toText,
        Json.onlyFields, Json.toU8_toNat, SessionId.ofJson_toJson, TurnId.ofJson_toJson]
  | shutdown v sessionId =>
      simp [InputFrame.ofJson, requestJson, Json.toFields, Json.field, Json.textField, Json.toText,
        Json.onlyFields, Json.toU8_toNat, SessionId.ofJson_toJson]

/-- The adapter has room for the line of a request. -/
def Fitting (frame : InputFrame) : Prop :=
  (requestJson frame).encodedLen ≤ Stdio.MAX_INPUT_FRAME_BYTES

/-- A frame that fits is written, or waits for the lock. -/
theorem Backend.writeFrame_fitting (b : Backend) {w : Writer} (h : Fitting w.frame) :
    ∃ b' written, b.writeFrame w = .ok (b', written) := by
  have hlen : ¬ MAX_STDIN_FRAME_BYTES < (requestJson w.frame).encodedLen := Nat.not_lt.mpr h
  rw [writeFrame, if_neg hlen]
  split_ifs
  · exact ⟨_, _, rfl⟩
  · exact ⟨_, _, rfl⟩

/-! ## Every frame on its way was checked -/

/-- A step keeps what waits and adds frames that fit. -/
theorem Backend.Runs.fitting {b : Backend} {e : Backend.Effect} (h : b.Runs e)
    (hwaiting : ∀ frame ∈ b.waiters.map Writer.frame, Fitting frame) :
    ∀ frame ∈ e.written ++ e.backend.waiters.map Writer.frame, Fitting frame := by
  cases h with
  | quiet _ _ _ hqueue =>
      rw [hqueue]
      exact hwaiting
  | @writes b₀ w hwrite _ _ hwaiters _ =>
      obtain ⟨-, -, -, hqueue⟩ := writeFrame_spec hwrite
      have hfits : Fitting w.frame := by
        rw [writeFrame] at hwrite
        split_ifs at hwrite with hlen
        · exact Nat.not_lt.mp hlen
        · exact Nat.not_lt.mp hlen
      rw [hqueue, hwaiters]
      exact List.forall_mem_append.mpr ⟨hwaiting, List.forall_mem_singleton.mpr hfits⟩

end Paraegox.Textual
