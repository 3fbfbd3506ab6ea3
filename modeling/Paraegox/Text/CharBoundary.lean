import Mathlib.Data.List.Flatten
import Paraegox.Text.Truncate
import Paraegox.Text.Utf8

/-!
# Character boundaries in bytes

`str::char_indices` and `str::is_char_boundary`, as they read the bytes of a text: a
character begins at each byte that does not continue one.  Over the UTF-8 of some
characters the boundaries are those between the characters.
-/

namespace Paraegox

/-- A byte of a character after its first one. -/
def isContinuation (b : UInt8) : Bool := 0x80 ≤ b.toNat && b.toNat < 0xc0

/-- The offsets of `str::char_indices`, where the text begins at `start`. -/
def charIndices (start : Nat) : List UInt8 → List Nat
  | [] => []
  | b :: bytes =>
      if isContinuation b then charIndices (start + 1) bytes
      else start :: charIndices (start + 1) bytes

@[simp] theorem charIndices_nil (start : Nat) : charIndices start [] = [] := rfl

theorem charIndices_cons (start : Nat) (b : UInt8) (bytes : List UInt8) :
    charIndices start (b :: bytes) =
      if isContinuation b then charIndices (start + 1) bytes
      else start :: charIndices (start + 1) bytes := rfl

/-- `str::is_char_boundary`, from the byte at the offset. -/
def isBoundaryByte (bytes : List UInt8) (index : Nat) : Bool :=
  index = 0 ||
    match bytes[index]? with
    | none => index = bytes.length
    | some b => !isContinuation b

/-- The UTF-8 of some characters. -/
def utf8Text (text : List Char) : List UInt8 := text.flatMap String.utf8EncodeChar

@[simp] theorem utf8Text_nil : utf8Text [] = [] := rfl

@[simp] theorem utf8Text_cons (c : Char) (text : List Char) :
    utf8Text (c :: text) = String.utf8EncodeChar c ++ utf8Text text := rfl

@[simp] theorem utf8Text_append (text text' : List Char) :
    utf8Text (text ++ text') = utf8Text text ++ utf8Text text' :=
  List.flatMap_append

theorem length_utf8Text (text : List Char) : (utf8Text text).length = String.utf8Len text := by
  induction text with
  | nil => rfl
  | cons c text ih =>
      rw [utf8Text_cons, List.length_append, String.length_utf8EncodeChar, ih, String.utf8Len_cons,
        Nat.add_comm]

theorem length_utf8Text_le {text text' : List Char} (h : List.Sublist text text') :
    (utf8Text text).length ≤ (utf8Text text').length :=
  (h.flatMap _).length_le

/-- The bytes of a character: one that leads, and continuations. -/
theorem utf8EncodeChar_eq (c : Char) : ∃ lead rest, String.utf8EncodeChar c = lead :: rest ∧
    isContinuation lead = false ∧ ∀ b ∈ rest, isContinuation b = true := by
  have hlead : ∀ n, n < 0x80 ∨ 0xc0 ≤ n → n < 256 → isContinuation (UInt8.ofNat n) = false := by
    intro n hn hlt
    simp only [isContinuation, UInt8.toNat_ofNat', Bool.and_eq_false_imp, decide_eq_true_eq,
      decide_eq_false_iff_not]
    omega
  have hrest : ∀ n, 0x80 ≤ n → n < 0xc0 → isContinuation (UInt8.ofNat n) = true := by
    intro n hlow hhigh
    simp only [isContinuation, UInt8.toNat_ofNat', Bool.and_eq_true, decide_eq_true_eq]
    omega
  have hnil : ∀ b ∈ ([] : List UInt8), isContinuation b = true :=
    fun b hb => absurd hb List.not_mem_nil
  have hmax : c.toNat < 0xd800 ∨ 0xdfff < c.toNat ∧ c.toNat < 0x110000 := c.valid
  have hval : c.val.toNat = c.toNat := rfl
  rw [String.utf8EncodeChar, hval]
  split
  · exact ⟨_, _, rfl, hlead _ (by omega) (by omega), hnil⟩
  split
  · exact ⟨_, _, rfl, hlead _ (by omega) (by omega),
      List.forall_mem_cons.mpr ⟨hrest _ (by omega) (by omega), hnil⟩⟩
  split
  · exact ⟨_, _, rfl, hlead _ (by omega) (by omega),
      List.forall_mem_cons.mpr ⟨hrest _ (by omega) (by omega),
      List.forall_mem_cons.mpr ⟨hrest _ (by omega) (by omega), hnil⟩⟩⟩
  · exact ⟨_, _, rfl, hlead _ (by omega) (by omega),
      List.forall_mem_cons.mpr ⟨hrest _ (by omega) (by omega),
      List.forall_mem_cons.mpr ⟨hrest _ (by omega) (by omega),
      List.forall_mem_cons.mpr ⟨hrest _ (by omega) (by omega), hnil⟩⟩⟩⟩

/-! ## Where characters begin -/

theorem charIndices_append (start : Nat) (bytes bytes' : List UInt8) :
    charIndices start (bytes ++ bytes') =
      charIndices start bytes ++ charIndices (start + bytes.length) bytes' := by
  induction bytes generalizing start with
  | nil => rfl
  | cons b bytes ih =>
      have hlen : start + (b :: bytes).length = start + 1 + bytes.length := by
        rw [List.length_cons]
        omega
      rw [List.cons_append, charIndices_cons, charIndices_cons, ih, hlen]
      split <;> rfl

/-- A character begins where its bytes begin. -/
theorem charIndices_utf8EncodeChar (start : Nat) (c : Char) :
    charIndices start (String.utf8EncodeChar c) = [start] := by
  obtain ⟨lead, rest, heq, hlead, hrest⟩ := utf8EncodeChar_eq c
  have hnone : ∀ start, charIndices start rest = [] := by
    clear heq
    induction rest with
    | nil => exact fun _ => rfl
    | cons b rest ih =>
        intro start
        rw [charIndices_cons, if_pos (hrest b List.mem_cons_self)]
        exact ih (fun b' hb' => hrest b' (List.mem_cons_of_mem _ hb')) _
  rw [heq, charIndices_cons, hlead, hnone]
  rfl

/-- There are as many offsets as characters. -/
@[simp] theorem length_charIndices (start : Nat) (text : List Char) :
    (charIndices start (utf8Text text)).length = text.length := by
  induction text generalizing start with
  | nil => rfl
  | cons c text ih =>
      rw [utf8Text_cons, charIndices_append, charIndices_utf8EncodeChar, List.singleton_append,
        List.length_cons, ih, List.length_cons]

/-- The offset of the character after `text`, or the end. -/
theorem charIndices_getD (text text' : List Char) :
    (charIndices 0 (utf8Text (text ++ text')))[text.length]?.getD
      (utf8Text (text ++ text')).length = (utf8Text text).length := by
  have hlen := length_charIndices 0 text
  rw [utf8Text_append, charIndices_append, List.getElem?_append_right hlen.le, hlen, Nat.sub_self,
    Nat.zero_add]
  cases text' with
  | nil => simp
  | cons c text' =>
      rw [utf8Text_cons, charIndices_append, charIndices_utf8EncodeChar]
      rfl

/-! ## Boundaries -/

/-- A byte that continues a character is no boundary, and the first byte after one is. -/
theorem isBoundaryByte_utf8Text (text : List Char) (index : Nat) :
    isBoundaryByte (utf8Text text) index = isCharBoundary text index := by
  induction text generalizing index with
  | nil =>
      cases index with
      | zero => rfl
      | succ n => simp [isBoundaryByte, isCharBoundary]
  | cons c text ih =>
      cases index with
      | zero => rfl
      | succ n =>
          obtain ⟨lead, rest, heq, hlead, hrest⟩ := utf8EncodeChar_eq c
          have hsize : c.utf8Size = rest.length + 1 := by
            rw [← String.length_utf8EncodeChar, heq, List.length_cons]
          rw [isCharBoundary, hsize, utf8Text_cons, heq, isBoundaryByte]
          rcases Nat.lt_or_ge n rest.length with hin | hout
          · -- Inside the character.
            have hcont := hrest _ (List.getElem_mem hin)
            simp [List.getElem?_append_left hin, List.getElem?_eq_getElem hin, hcont]
            omega
          · obtain ⟨k, rfl⟩ := Nat.exists_eq_add_of_le hout
            have hsub : rest.length + k + 1 - (rest.length + 1) = k := by omega
            have hget : (lead :: rest ++ utf8Text text)[rest.length + k + 1]? =
                (utf8Text text)[k]? := by
              simp [List.getElem?_append_right]
            rw [hsub, ← ih, isBoundaryByte, hget]
            cases k with
            | zero => cases text with
              | nil => simp
              | cons d text =>
                  obtain ⟨lead', rest', heq', hlead', -⟩ := utf8EncodeChar_eq d
                  simp [heq', hlead']
            | succ k => cases (utf8Text text)[k + 1]? <;> simp

/-- Between two texts is a boundary. -/
theorem isCharBoundary_append (text text' : List Char) :
    isCharBoundary (text ++ text') (utf8Text text).length = true := by
  induction text with
  | nil => rw [utf8Text_nil, List.length_nil, isCharBoundary]
  | cons c text ih =>
      have hpos := c.utf8Size_pos
      have hlen : (utf8Text (c :: text)).length = c.utf8Size - 1 + (utf8Text text).length + 1 := by
        rw [utf8Text_cons, List.length_append, String.length_utf8EncodeChar]
        omega
      have hsub : c.utf8Size - 1 + (utf8Text text).length + 1 - c.utf8Size =
          (utf8Text text).length := by
        omega
      rw [hlen, List.cons_append, isCharBoundary, hsub, ih, Bool.and_true]
      exact decide_eq_true (by omega)

theorem isBoundaryByte_append (text text' : List Char) :
    isBoundaryByte (utf8Text text ++ utf8Text text') (utf8Text text).length = true := by
  rw [← utf8Text_append, isBoundaryByte_utf8Text, isCharBoundary_append]

end Paraegox
