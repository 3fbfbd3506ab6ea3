import Paraegox.Text.CharBoundary

/-!
# Reading UTF-8 leniently

`bytes.decode("utf-8", errors="ignore")`: the characters of some bytes, where a byte that
begins no whole character is passed over.  Of a text that was cut anywhere it reads the
characters that are left whole.
-/

namespace Paraegox

/-- The character some bytes begin with, if they hold all of it. -/
def frontChar? (bytes : List UInt8) : Option Char := bytes.toByteArray.utf8DecodeChar? 0

/-- `bytes.decode("utf-8", errors="ignore")`; `skip` bytes belong to a character already. -/
def decodeIgnore : Nat → List UInt8 → List Char
  | _, [] => []
  | skip + 1, _ :: bytes => decodeIgnore skip bytes
  | 0, b :: bytes =>
      match frontChar? (b :: bytes) with
      | some c => c :: decodeIgnore (c.utf8Size - 1) bytes
      -- What continues a broken character begins none either, and goes the same way.
      | none => decodeIgnore 0 bytes

theorem decodeIgnore_some {b : UInt8} {bytes : List UInt8} {c : Char}
    (h : frontChar? (b :: bytes) = some c) :
    decodeIgnore 0 (b :: bytes) = c :: decodeIgnore (c.utf8Size - 1) bytes := by
  simp only [decodeIgnore, h]

theorem decodeIgnore_none {b : UInt8} {bytes : List UInt8} (h : frontChar? (b :: bytes) = none) :
    decodeIgnore 0 (b :: bytes) = decodeIgnore 0 bytes := by
  simp only [decodeIgnore, h]

/-! ## The front of some bytes -/

theorem toList_toByteArray (bytes : List UInt8) : bytes.toByteArray.data.toList = bytes := by
  rw [List.data_toByteArray]

theorem frontChar?_iff {bytes : List UInt8} {c : Char} :
    frontChar? bytes = some c ↔ String.utf8EncodeChar c <+: bytes := by
  constructor
  · intro h
    obtain ⟨rest, hrest⟩ := ByteArray.exists_of_utf8DecodeChar?_eq_some h
    refine ⟨rest.data.toList, ?_⟩
    rw [← toList_toByteArray bytes, hrest, ByteArray.data_append, Array.toList_append,
      toList_toByteArray]
  · rintro ⟨rest, rfl⟩
    rw [frontChar?, List.toByteArray_append]
    exact ByteArray.utf8DecodeChar?_utf8EncodeChar_append

/-- A character does not begin with another one. -/
theorem eq_of_utf8EncodeChar_front {c d : Char}
    (h : String.utf8EncodeChar c <+: String.utf8EncodeChar d) : c = d := by
  have hd : frontChar? (String.utf8EncodeChar d) = some d := frontChar?_iff.mpr List.prefix_rfl
  exact Option.some.inj ((frontChar?_iff.mpr h).symm.trans hd)

/-- A byte that continues a character begins none. -/
theorem frontChar?_continuation {b : UInt8} (hb : isContinuation b = true) (bytes : List UInt8) :
    frontChar? (b :: bytes) = none := by
  by_contra hne
  obtain ⟨c, hc⟩ := Option.ne_none_iff_exists'.mp hne
  obtain ⟨lead, rest, heq, hlead, -⟩ := utf8EncodeChar_eq c
  have hfront := frontChar?_iff.mp hc
  rw [heq, List.cons_prefix_cons] at hfront
  rw [hfront.1, hb] at hlead
  cases hlead

/-! ## What is read -/

theorem decodeIgnore_skip (skip : Nat) (bytes : List UInt8) :
    decodeIgnore skip bytes = decodeIgnore 0 (bytes.drop skip) := by
  induction skip generalizing bytes with
  | zero => rfl
  | succ skip ih =>
      cases bytes with
      | nil => rfl
      | cons b bytes => exact ih bytes

/-- A whole character is read. -/
theorem decodeIgnore_encode (c : Char) (bytes : List UInt8) :
    decodeIgnore 0 (String.utf8EncodeChar c ++ bytes) = c :: decodeIgnore 0 bytes := by
  obtain ⟨lead, rest, heq, -, -⟩ := utf8EncodeChar_eq c
  have hfront : frontChar? (lead :: (rest ++ bytes)) = some c := by
    rw [frontChar?_iff, heq]
    exact List.prefix_append (lead :: rest) bytes
  have hsize : c.utf8Size - 1 = rest.length := by
    rw [← String.length_utf8EncodeChar, heq, List.length_cons, Nat.add_sub_cancel]
  rw [heq, List.cons_append, decodeIgnore_some hfront, hsize, decodeIgnore_skip, List.drop_left]

theorem decodeIgnore_continuations {bytes : List UInt8}
    (h : ∀ b ∈ bytes, isContinuation b = true) : decodeIgnore 0 bytes = [] := by
  induction bytes with
  | nil => rfl
  | cons b bytes ih =>
      rw [decodeIgnore_none (frontChar?_continuation (h b List.mem_cons_self) bytes)]
      exact ih fun b' hb' => h b' (List.mem_cons_of_mem _ hb')

/-- Nothing is read of a character that was cut. -/
theorem decodeIgnore_cut {c : Char} {n : Nat} (h : n < c.utf8Size) :
    decodeIgnore 0 ((String.utf8EncodeChar c).take n) = [] := by
  obtain ⟨lead, rest, heq, -, hrest⟩ := utf8EncodeChar_eq c
  cases n with
  | zero => rfl
  | succ n =>
      have hnone : frontChar? (lead :: rest.take n) = none := by
        by_contra hne
        obtain ⟨d, hd⟩ := Option.ne_none_iff_exists'.mp hne
        have hcut : lead :: rest.take n = (String.utf8EncodeChar c).take (n + 1) := by
          rw [heq, List.take_succ_cons]
        rw [frontChar?_iff, hcut] at hd
        obtain rfl := eq_of_utf8EncodeChar_front (hd.trans (List.take_prefix _ _))
        have hlen := hd.length_le
        rw [List.length_take, String.length_utf8EncodeChar] at hlen
        omega
      rw [heq, List.take_succ_cons, decodeIgnore_none hnone]
      exact decodeIgnore_continuations fun b hb => hrest b (List.mem_of_mem_take hb)

/-- Of a text that was cut anywhere, the characters are read that are left whole. -/
theorem decodeIgnore_take (text : List Char) (n : Nat) :
    decodeIgnore 0 ((utf8Text text).take n) = sliceTo text n := by
  induction text generalizing n with
  | nil =>
      rw [utf8Text_nil, List.take_nil]
      rfl
  | cons c text ih =>
      rw [utf8Text_cons, List.take_append, String.length_utf8EncodeChar, sliceTo]
      split_ifs with hc
      · rw [List.take_of_length_le (String.length_utf8EncodeChar c ▸ hc), decodeIgnore_encode, ih]
      · have hcut : n < c.utf8Size := Nat.not_le.mp hc
        rw [Nat.sub_eq_zero_of_le hcut.le, List.take_zero, List.append_nil, decodeIgnore_cut hcut]

end Paraegox
