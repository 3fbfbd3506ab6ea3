import Paraegox.Lib.Except
import Paraegox.Lib.Exec
import Paraegox.Text.CharBoundary

/-!
# Truncating the bytes of a text

`truncate_utf8` as it runs: it walks back from the limit byte by byte until it stands between
two characters, and slices there.  A slice inside a character panics, and so does a step
back from the first byte.
-/

namespace Paraegox

/-- The loop of `truncate_utf8`: `none` while it still runs when the fuel is spent. -/
def walkBack (value : List UInt8) : Nat → Nat → Option (Except (Fault Empty) Nat)
  | 0, _ => none
  | fuel + 1, boundary =>
      if isBoundaryByte value boundary then some (.ok boundary)
      else if boundary = 0 then some (.error (.panic "attempt to subtract with overflow"))
      else walkBack value fuel (boundary - 1)

/-- `truncate_utf8` on the bytes of a text. -/
def truncateBytes (fuel : Nat) (value : List UInt8) (maxBytes : Nat) :
    Option (Except (Fault Empty) (List UInt8)) :=
  if value.length ≤ maxBytes then some (.ok value)
  else
    (walkBack value fuel maxBytes).map fun result => do
      let boundary ← result
      if isBoundaryByte value boundary then .ok (value.take boundary)
      else .error (.panic "byte index is not a char boundary")

/-! ## The boundary the loop finds -/

theorem isCharBoundary_boundaryAtMost (text : List Char) (n : Nat) :
    isCharBoundary text (boundaryAtMost text n) = true := by
  induction n with
  | zero => rw [boundaryAtMost, isCharBoundary]
  | succ n ih =>
      rw [boundaryAtMost]
      split_ifs with h
      · exact h
      · exact ih

/-- No boundary is passed over. -/
theorem le_boundaryAtMost {text : List Char} {k n : Nat} (hk : isCharBoundary text k = true)
    (hle : k ≤ n) : k ≤ boundaryAtMost text n := by
  induction n with
  | zero => exact hle
  | succ n ih =>
      rw [boundaryAtMost]
      split_ifs with h
      · exact hle
      · rcases Nat.lt_or_eq_of_le hle with hlt | rfl
        · exact ih (Nat.le_of_lt_succ hlt)
        · exact absurd hk h

/-- A slice at the boundary is the longest one within the limit. -/
theorem sliceTo_boundaryAtMost (text : List Char) (n : Nat) :
    sliceTo text (boundaryAtMost text n) = sliceTo text n := by
  have hle : boundaryAtMost text n ≤ n := boundaryAtMost_le text n
  obtain ⟨rest, hrest⟩ := sliceTo_front text n
  have hboundary : isCharBoundary text (utf8Text (sliceTo text n)).length = true := by
    have happend := isCharBoundary_append (sliceTo text n) rest
    rwa [hrest] at happend
  have hlen : String.utf8Len (sliceTo text n) ≤ boundaryAtMost text n := by
    rw [← length_utf8Text]
    exact le_boundaryAtMost hboundary (length_utf8Text _ ▸ utf8Len_sliceTo_le text n)
  have hback : sliceTo text (boundaryAtMost text n) <+: sliceTo text n :=
    front_sliceTo (sliceTo_front _ _) ((utf8Len_sliceTo_le _ _).trans hle)
  have hforth : sliceTo text n <+: sliceTo text (boundaryAtMost text n) :=
    front_sliceTo (sliceTo_front _ _) hlen
  exact hback.eq_of_length_le hforth.length_le

/-- The bytes up to a boundary are those of the characters before it. -/
theorem take_utf8Text {text : List Char} {n : Nat} (h : isCharBoundary text n = true) :
    (utf8Text text).take n = utf8Text (sliceTo text n) := by
  induction text generalizing n with
  | nil => rw [sliceTo, utf8Text_nil, List.take_nil]
  | cons c text ih =>
      cases n with
      | zero =>
          have hpos := c.utf8Size_pos
          rw [List.take_zero, sliceTo, if_neg (by omega), utf8Text_nil]
      | succ n =>
          rw [isCharBoundary, Bool.and_eq_true, decide_eq_true_eq] at h
          rw [sliceTo, if_pos h.1, utf8Text_cons, utf8Text_cons, ← ih h.2, List.take_append,
            String.length_utf8EncodeChar,
            List.take_of_length_le (String.length_utf8EncodeChar c ▸ h.1)]

/-! ## The loop -/

/-- The loop ends at the boundary, within one step for each byte it may walk back. -/
theorem walkBack_eq (text : List Char) {fuel boundary : Nat} (h : boundary < fuel) :
    walkBack (utf8Text text) fuel boundary = some (.ok (boundaryAtMost text boundary)) := by
  induction fuel generalizing boundary with
  | zero => omega
  | succ fuel ih =>
      rw [walkBack, isBoundaryByte_utf8Text]
      cases boundary with
      | zero => rw [isCharBoundary, if_pos rfl, boundaryAtMost]
      | succ n =>
          rw [boundaryAtMost]
          by_cases hn : isCharBoundary text (n + 1) = true
          · rw [if_pos hn, if_pos hn]
          · rw [if_neg hn, if_neg hn, if_neg (Nat.succ_ne_zero n)]
            exact ih (Nat.lt_of_succ_lt_succ h)

/-- The bytes of a text are those of its characters. -/
theorem utf8_eq (value : String) : utf8 value = utf8Text value.toList := by
  rw [utf8Text, ← utf8_ofList, String.ofList_toList]

/-- `truncate_utf8` ends, without a panic, at what the model of it says. -/
theorem truncateBytes_eq (value : String) {fuel maxBytes : Nat} (h : maxBytes < fuel) :
    truncateBytes fuel (utf8 value) maxBytes =
      some (.ok (utf8 (truncateUtf8 value maxBytes))) := by
  rw [truncateBytes, truncateUtf8, length_utf8]
  split_ifs with hfits
  · rfl
  · have hboundary := isCharBoundary_boundaryAtMost value.toList maxBytes
    have htake := take_utf8Text hboundary
    rw [utf8_ofList, utf8_eq, walkBack_eq value.toList h, Option.map_some, Except.ok_bind,
      isBoundaryByte_utf8Text, if_pos hboundary, htake]
    rfl

end Paraegox
