import Paraegox.Stdio.Frames
import Paraegox.Text.JsonBytes

/-!
# The envelopes of a terminal

A terminal travels in the answer to a submit, in the answer to a cancellation and in a
frame of the adapter.  The identifiers do not change the lengths of these envelopes, so
each is a constant longer than the terminal, and what `wire_safe_terminal` checks of the
first bounds the other two.
-/

namespace Paraegox

open Json
open Paraegox.Stdio (OutputFrame)

namespace Agent

/-! ## Three envelopes -/

theorem SessionId.encodedLen_toJson (s : SessionId) : s.toJson.encodedLen = 38 :=
  quoteLen_hyphenated s.uuid

theorem TurnId.encodedLen_toJson (t : TurnId) : t.toJson.encodedLen = 38 :=
  quoteLen_hyphenated t.uuid

theorem TurnResult.encodedLen_toJson (result : TurnResult) :
    result.toJson.encodedLen = result.terminal.toJson.encodedLen + 114 := by
  have hnames : namesLen ["session_id", "turn_id", "terminal"] = 38 := by decide
  rw [TurnResult.toJson, encodedLen_obj]
  simp only [List.map_cons, List.map_nil, List.sum_cons, List.sum_nil, hnames,
    SessionId.encodedLen_toJson, TurnId.encodedLen_toJson]
  omega

theorem WireResponse.encodedLen_turn (result : TurnResult) :
    (WireResponse.turn result).toJson.encodedLen = result.toJson.encodedLen + 29 := by
  have hnames : namesLen ["response", "result"] = 23 := by decide
  have hturn : (Json.str "turn").encodedLen = 6 := by decide
  rw [WireResponse.toJson, encodedLen_obj]
  simp only [List.map_cons, List.map_nil, List.sum_cons, List.sum_nil, hnames, hturn]
  omega

theorem CancelResult.encodedLen_alreadyTerminal (terminal : TurnTerminal) :
    (CancelResult.alreadyTerminal terminal).toJson.encodedLen =
      terminal.toJson.encodedLen + 41 := by
  have hnames : namesLen ["status", "terminal"] = 23 := by decide
  have halready : (Json.str "already_terminal").encodedLen = 18 := by decide
  rw [CancelResult.toJson, encodedLen_obj]
  simp only [List.map_cons, List.map_nil, List.sum_cons, List.sum_nil, hnames, halready]
  omega

theorem WireResponse.encodedLen_cancel (s : SessionId) (t : TurnId) (terminal : TurnTerminal) :
    (WireResponse.cancel s t (.alreadyTerminal terminal)).toJson.encodedLen =
      terminal.toJson.encodedLen + 173 := by
  have hnames : namesLen ["response", "session_id", "turn_id", "result"] = 48 := by decide
  have hcancel : (Json.str "cancel").encodedLen = 8 := by decide
  rw [WireResponse.toJson, encodedLen_obj]
  simp only [List.map_cons, List.map_nil, List.sum_cons, List.sum_nil, hnames, hcancel,
    SessionId.encodedLen_toJson, TurnId.encodedLen_toJson,
    CancelResult.encodedLen_alreadyTerminal]
  omega

end Agent

theorem Stdio.OutputFrame.encodedLen_turnTerminal (result : Agent.TurnResult) :
    (OutputFrame.turnTerminal Stdio.PROTOCOL_VERSION result).toJson.encodedLen =
      result.toJson.encodedLen + 40 := by
  have hnames : namesLen ["type", "v", "result"] = 24 := by decide
  have htag : (Json.str "turn_terminal").encodedLen = 15 := by decide
  have hone : (Json.num Stdio.PROTOCOL_VERSION.toNat).encodedLen = 1 := by decide
  rw [toJson, encodedLen_obj]
  simp only [List.map_cons, List.map_nil, List.sum_cons, List.sum_nil, hnames, htag, hone]
  omega

namespace Agent

/-! ## The check of `wire_safe_terminal` -/

/-- The answer that carries the terminal fits the wire, for all identifiers. -/
def TurnTerminal.WireSafe (terminal : TurnTerminal) : Prop :=
  terminal.toJson.encodedLen + 143 ≤ MAX_AGENT_WIRE_RESPONSE_BYTES

instance (terminal : TurnTerminal) : Decidable terminal.WireSafe :=
  inferInstanceAs (Decidable (_ ≤ _))

/-- The check of `wire_safe_terminal` reads the terminal only. -/
theorem wireSafeTerminal_eq (s : SessionId) (t : TurnId) (terminal : TurnTerminal) :
    wireSafeTerminal s t terminal =
      if terminal.WireSafe then terminal else .failed .invalidProviderResponse := by
  have hlen : (WireResponse.turn ⟨s, t, terminal⟩).toJson.encodedLen =
      terminal.toJson.encodedLen + 143 := by
    rw [WireResponse.encodedLen_turn, TurnResult.encodedLen_toJson]
  rw [wireSafeTerminal, hlen]
  rfl

theorem TurnTerminal.wireSafe_of_ne_final {terminal : TurnTerminal}
    (h : ∀ content, terminal ≠ .final content) : terminal.WireSafe := by
  cases terminal with
  | final content => exact absurd rfl (h content)
  | cancelled => decide
  | timedOut => decide
  | failed reason => cases reason <;> decide

theorem wireSafe_wireSafeTerminal (s : SessionId) (t : TurnId) (terminal : TurnTerminal) :
    (wireSafeTerminal s t terminal).WireSafe := by
  rw [wireSafeTerminal_eq]
  split_ifs with h
  · exact h
  · exact TurnTerminal.wireSafe_of_ne_final nofun

end Agent

end Paraegox
