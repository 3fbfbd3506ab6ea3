import Mathlib.Data.String.Basic

/-!
# Truncating text at a byte limit

Positions in a text are byte offsets of its UTF-8 form.  `is_char_boundary` holds
of the offsets between two characters, and a slice up to such an offset is the
characters before it.
-/

namespace Paraegox

/-- `str::is_char_boundary`. -/
def isCharBoundary : List Char → Nat → Bool
  | _, 0 => true
  | [], _ + 1 => false
  | c :: cs, n + 1 => c.utf8Size ≤ n + 1 && isCharBoundary cs (n + 1 - c.utf8Size)

/-- `&value[..n]`, where `n` is a boundary. -/
def sliceTo : List Char → Nat → List Char
  | [], _ => []
  | c :: cs, n => if c.utf8Size ≤ n then c :: sliceTo cs (n - c.utf8Size) else []

/-- The loop of `truncate_utf8`: the boundary at or before an offset. -/
def boundaryAtMost (text : List Char) : Nat → Nat
  | 0 => 0
  | n + 1 => if isCharBoundary text (n + 1) then n + 1 else boundaryAtMost text n

/-- `truncate_utf8`. -/
def truncateUtf8 (value : String) (maxBytes : Nat) : String :=
  if value.utf8ByteSize ≤ maxBytes then value
  else String.ofList (sliceTo value.toList (boundaryAtMost value.toList maxBytes))

theorem boundaryAtMost_le (text : List Char) (n : Nat) : boundaryAtMost text n ≤ n := by
  induction n with
  | zero => exact Nat.le_refl 0
  | succ n ih =>
      rw [boundaryAtMost]
      split_ifs
      · exact Nat.le_refl _
      · exact Nat.le_succ_of_le ih

theorem utf8Len_sliceTo_le (text : List Char) (n : Nat) :
    String.utf8Len (sliceTo text n) ≤ n := by
  induction text generalizing n with
  | nil => exact Nat.zero_le n
  | cons c cs ih =>
      rw [sliceTo]
      split_ifs with hc
      · have := ih (n - c.utf8Size)
        rw [String.utf8Len_cons]
        omega
      · exact Nat.zero_le n

theorem sliceTo_front (text : List Char) (n : Nat) : sliceTo text n <+: text := by
  induction text generalizing n with
  | nil => exact List.prefix_rfl
  | cons c cs ih =>
      rw [sliceTo]
      split_ifs with hc
      · exact List.prefix_cons_inj c |>.mpr (ih _)
      · exact List.nil_prefix

/-- No longer text at the front fits. -/
theorem front_sliceTo {text front : List Char} {n : Nat} (h : front <+: text)
    (hn : String.utf8Len front ≤ n) : front <+: sliceTo text n := by
  induction text generalizing front n with
  | nil => exact h
  | cons c cs ih =>
      cases front with
      | nil => exact List.nil_prefix
      | cons d front =>
          obtain ⟨rfl, hfront⟩ := List.cons_prefix_cons.mp h
          rw [String.utf8Len_cons] at hn
          rw [sliceTo, if_pos (by omega)]
          exact List.cons_prefix_cons.mpr ⟨rfl, ih hfront (by omega)⟩

/-- What is left fits. -/
theorem truncateUtf8_le (value : String) (maxBytes : Nat) :
    (truncateUtf8 value maxBytes).utf8ByteSize ≤ maxBytes := by
  rw [truncateUtf8]
  split_ifs with h
  · exact h
  · rw [String.utf8ByteSize_ofList]
    exact (utf8Len_sliceTo_le _ _).trans (boundaryAtMost_le _ _)

end Paraegox
