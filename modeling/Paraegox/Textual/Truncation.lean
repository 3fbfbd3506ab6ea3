import Paraegox.Text.TruncateBytes
import Paraegox.Text.Utf8Decode
import Paraegox.Textual.Crossing

/-!
# The truncation of the client and that of the adapter

The adapter walks back from the limit to a boundary, the client cuts the bytes anywhere and
reads leniently what is left.  Both leave the longest front of whole characters, so the
client has no objection to a message the adapter has cut.
-/

namespace Paraegox.Textual

open Agent (AgentError SessionId TurnId)
open Stdio (OutputFrame)

/-- `truncate_utf8` of the client. -/
def truncateUtf8 (text : String) (maxBytes : Nat) (ellipsis : Bool) : String :=
  let encoded := utf8 text
  if encoded.length ≤ maxBytes then text
  else
    let suffix := if ellipsis ∧ 3 ≤ maxBytes then "…" else ""
    let prefixBytes := maxBytes - (utf8 suffix).length
    String.ofList (decodeIgnore 0 (encoded.take prefixBytes)) ++ suffix

/-- `bounded_text`. -/
def boundedText (text : String) (maxBytes : Nat) : String :=
  let safe := text.toList.map fun character =>
    if character = '\n' ∨ character = '\t' ∨ ¬ isControl character then character else '\ufffd'
  truncateUtf8 (String.ofList safe) maxBytes true

/-! ## The client's cut -/

/-- The adapter's cut of a text that is too long. -/
theorem toList_truncateUtf8 {value : String} {maxBytes : Nat} (h : maxBytes < value.utf8ByteSize) :
    (Paraegox.truncateUtf8 value maxBytes).toList = sliceTo value.toList maxBytes := by
  rw [Paraegox.truncateUtf8, if_neg (Nat.not_le.mpr h), String.toList_ofList,
    sliceTo_boundaryAtMost]

/-- The client's cut of a text that is too long. -/
theorem toList_truncateUtf8_client {text : String} {maxBytes : Nat} (ellipsis : Bool)
    (h : maxBytes < text.utf8ByteSize) :
    (truncateUtf8 text maxBytes ellipsis).toList =
      if ellipsis ∧ 3 ≤ maxBytes then sliceTo text.toList (maxBytes - 3) ++ ['…']
      else sliceTo text.toList maxBytes := by
  have hellipsis : (utf8 "…").length = 3 := rfl
  have hnone : (utf8 "").length = 0 := rfl
  rw [truncateUtf8]
  dsimp only
  rw [length_utf8, if_neg (Nat.not_le.mpr h), utf8_eq text, decodeIgnore_take,
    String.toList_append, String.toList_ofList]
  split_ifs with hsuffix
  · rw [hellipsis]
    rfl
  · rw [hnone, Nat.sub_zero, String.toList_empty, List.append_nil]

/-- Both leave the same. -/
theorem truncateUtf8_eq (value : String) (maxBytes : Nat) :
    truncateUtf8 value maxBytes false = Paraegox.truncateUtf8 value maxBytes := by
  rcases Nat.lt_or_ge maxBytes value.utf8ByteSize with hlong | hfits
  · apply String.toList_inj.mp
    rw [toList_truncateUtf8 hlong, toList_truncateUtf8_client false hlong,
      if_neg (fun h => Bool.false_ne_true h.1)]
  · rw [truncateUtf8, Paraegox.truncateUtf8, if_pos hfits]
    exact if_pos hfits

/-- What is left of a text that is too long fits, with the ellipsis. -/
theorem truncateUtf8_le_client (text : String) (maxBytes : Nat) (ellipsis : Bool) :
    (truncateUtf8 text maxBytes ellipsis).utf8ByteSize ≤ maxBytes := by
  rcases Nat.lt_or_ge maxBytes text.utf8ByteSize with hlong | hfits
  · rw [← String.ofList_toList (s := truncateUtf8 text maxBytes ellipsis),
      String.utf8ByteSize_ofList, toList_truncateUtf8_client ellipsis hlong]
    split_ifs with hsuffix
    · have hcut := utf8Len_sliceTo_le text.toList (maxBytes - 3)
      have hellipsis : String.utf8Len ['…'] = 3 := rfl
      rw [String.utf8Len_append, hellipsis]
      omega
    · exact utf8Len_sliceTo_le _ _
  · rw [truncateUtf8]
    exact (congrArg String.utf8ByteSize (if_pos hfits)).trans_le hfits

/-- What the adapter leaves is the longest front that fits. -/
theorem front_truncateUtf8 (value : String) (maxBytes : Nat) :
    (Paraegox.truncateUtf8 value maxBytes).toList <+: value.toList ∧
      ∀ front, front <+: value.toList → String.utf8Len front ≤ maxBytes →
        front <+: (Paraegox.truncateUtf8 value maxBytes).toList := by
  rcases Nat.lt_or_ge maxBytes value.utf8ByteSize with hlong | hfits
  · rw [toList_truncateUtf8 hlong]
    exact ⟨sliceTo_front _ _, fun front hfront hlen => front_sliceTo hfront hlen⟩
  · rw [Paraegox.truncateUtf8, if_pos hfits]
    exact ⟨List.prefix_rfl, fun front hfront _ => hfront⟩

/-- What the client shows of an error fits, whatever was replaced in it. -/
theorem boundedText_le (text : String) (maxBytes : Nat) :
    (boundedText text maxBytes).utf8ByteSize ≤ maxBytes :=
  truncateUtf8_le_client _ _ _

/-! ## Messages the adapter has cut -/

/-- An error of the adapter is not too long for the client, whatever Turn the client has. -/
theorem validateEvent_safeMessage (b : Backend) (v : UInt8) (sessionId : SessionId)
    (turnId : TurnId) (error : AgentError) {fields : Frame}
    (h : (OutputFrame.turnError v sessionId turnId (Stdio.safeMessage error)).toJson =
      .obj fields) :
    b.validateEvent fields ≠ .error ⟨"Paraegox Turn error message exceeds 512 bytes"⟩ := by
  have hle : (Stdio.safeMessage error).utf8ByteSize ≤ MAX_ERROR_BYTES :=
    Stdio.safeMessage_le error
  cases h
  have hsession : b.requireSessionIdentity (some sessionId.toJson) =
      if sessionId.uuid.hyphenated ≠ b.sessionId.uuid.hyphenated then
        .error ⟨"Paraegox event does not match this Session"⟩
      else .ok () := by
    simp only [Backend.requireSessionIdentity, Agent.SessionId.toJson, canonicalUuid_hyphenated,
      Except.ok_bind]
  simp only [Backend.validateEvent, Backend.requireActiveIdentity, requireExactFields,
    Agent.TurnId.toJson, canonicalUuid_hyphenated, hsession, List.lookup_cons,
    List.mem_cons, List.not_mem_nil, List.map_cons, List.map_nil, String.reduceBEq,
    String.reduceEq, forall_eq_or_imp, forall_eq, or_self, or_true, or_false,
    and_self, ite_not, ne_eq, Bool.not_eq_true, ↓reduceIte, bind_assoc, Except.ok_bind,
    if_neg (Nat.not_lt.mpr hle)]
  cases b.activeTurnId with
  | none => split_ifs <;> simp [bind, Except.bind]
  | some active =>
      dsimp only
      split_ifs <;> simp [bind, Except.bind]

/-- Both truncations leave the longest front of whole characters that fits; the adapter's loop
finds it without a panic, within a round for each byte of the limit and one more.  With the
ellipsis the client's still fits.  So no message the adapter has cut is too long for the client. -/
theorem truncations_agree :
    (∀ (value : String) (maxBytes : Nat),
      (∀ fuel, maxBytes < fuel → truncateBytes fuel (utf8 value) maxBytes =
        some (.ok (utf8 (Paraegox.truncateUtf8 value maxBytes)))) ∧
      (Paraegox.truncateUtf8 value maxBytes).toList <+: value.toList ∧
      (Paraegox.truncateUtf8 value maxBytes).utf8ByteSize ≤ maxBytes ∧
      (∀ front, front <+: value.toList → String.utf8Len front ≤ maxBytes →
        front <+: (Paraegox.truncateUtf8 value maxBytes).toList) ∧
      truncateUtf8 value maxBytes false = Paraegox.truncateUtf8 value maxBytes) ∧
    (∀ (text : String) (maxBytes : Nat),
      (truncateUtf8 text maxBytes true).utf8ByteSize ≤ maxBytes ∧
      (maxBytes < text.utf8ByteSize → 3 ≤ maxBytes →
        ∃ front, front <+: text.toList ∧
          (truncateUtf8 text maxBytes true).toList = front ++ ['…'])) ∧
    ∀ (b : Backend) (v : UInt8) (sessionId : SessionId) (turnId : TurnId) (error : AgentError)
      (fields : Frame),
      (OutputFrame.turnError v sessionId turnId (Stdio.safeMessage error)).toJson = .obj fields →
      b.validateEvent fields ≠ .error ⟨"Paraegox Turn error message exceeds 512 bytes"⟩ ∧
      (v = Stdio.PROTOCOL_VERSION → sessionId = b.sessionId → b.activeTurnId = some turnId →
        b.validateEvent fields = .ok ()) := by
  refine ⟨?_, ?_, ?_⟩
  · intro value maxBytes
    obtain ⟨hfront, hlongest⟩ := front_truncateUtf8 value maxBytes
    exact ⟨fun _ hfuel => truncateBytes_eq value hfuel, hfront, truncateUtf8_le value maxBytes,
      hlongest, truncateUtf8_eq value maxBytes⟩
  · intro text maxBytes
    refine ⟨truncateUtf8_le_client text maxBytes true, ?_⟩
    intro hlong hroom
    refine ⟨_, sliceTo_front text.toList (maxBytes - 3), ?_⟩
    rw [toList_truncateUtf8_client true hlong, if_pos ⟨rfl, hroom⟩]
  · intro b v sessionId turnId error fields hfields
    refine ⟨validateEvent_safeMessage b v sessionId turnId error hfields, ?_⟩
    intro hversion hsession hactive
    have hfits : Fits b.sessionId b.activeTurnId
        (.turnError v sessionId turnId (Stdio.safeMessage error)) :=
      ⟨hversion, hsession, hactive, Stdio.safeMessage_le error⟩
    exact Backend.validateEvent_fits hfits hfields

end Paraegox.Textual
