import Mathlib.Logic.Function.Basic

/-!
# The bytes of a text

`str::as_bytes`.  A Lean string is its UTF-8 form, so the bytes determine it and
their number is `str::len`.
-/

namespace Paraegox

/-- `str::as_bytes`. -/
def utf8 (s : String) : List UInt8 := s.toByteArray.data.toList

theorem length_utf8 (s : String) : (utf8 s).length = s.utf8ByteSize := rfl

theorem utf8_injective : Function.Injective utf8 := by
  intro s s' h
  have hdata : s.toByteArray.data = s'.toByteArray.data := Array.toList_inj.mp h
  exact String.toByteArray_inj.mp (ByteArray.ext hdata)

/-! ## Bytes of characters -/

/-- A character that is no control has no byte below a blank. -/
theorem le_of_mem_utf8EncodeChar {c : Char} (h : 0x20 ≤ c.toNat) :
    ∀ b ∈ String.utf8EncodeChar c, 0x20 ≤ b.toNat := by
  have hbyte : ∀ n, 0x20 ≤ n → n < 256 → 0x20 ≤ (UInt8.ofNat n).toNat := by
    intro n hlow hhigh
    rw [UInt8.toNat_ofNat']
    omega
  have hlast : ∀ b ∈ ([] : List UInt8), 0x20 ≤ b.toNat := fun b hb => absurd hb List.not_mem_nil
  have hval : c.val.toNat = c.toNat := rfl
  rw [String.utf8EncodeChar]
  rw [hval]
  split
  · exact List.forall_mem_cons.mpr ⟨hbyte _ h (by omega), hlast⟩
  split
  · exact List.forall_mem_cons.mpr ⟨hbyte _ (by omega) (by omega),
      List.forall_mem_cons.mpr ⟨hbyte _ (by omega) (by omega), hlast⟩⟩
  split
  · exact List.forall_mem_cons.mpr ⟨hbyte _ (by omega) (by omega),
      List.forall_mem_cons.mpr ⟨hbyte _ (by omega) (by omega),
      List.forall_mem_cons.mpr ⟨hbyte _ (by omega) (by omega), hlast⟩⟩⟩
  · exact List.forall_mem_cons.mpr ⟨hbyte _ (by omega) (by omega),
      List.forall_mem_cons.mpr ⟨hbyte _ (by omega) (by omega),
      List.forall_mem_cons.mpr ⟨hbyte _ (by omega) (by omega),
      List.forall_mem_cons.mpr ⟨hbyte _ (by omega) (by omega), hlast⟩⟩⟩⟩

theorem utf8_ofList (text : List Char) :
    utf8 (String.ofList text) = text.flatMap String.utf8EncodeChar := by
  rw [utf8, String.toByteArray_ofList, List.utf8Encode]
  simp

theorem le_of_mem_utf8 {text : List Char} (h : ∀ c ∈ text, 0x20 ≤ c.toNat) :
    ∀ b ∈ utf8 (String.ofList text), 0x20 ≤ b.toNat := by
  intro b hb
  rw [utf8_ofList] at hb
  obtain ⟨c, hc, hb⟩ := List.mem_flatMap.mp hb
  exact le_of_mem_utf8EncodeChar (h c hc) b hb

end Paraegox
