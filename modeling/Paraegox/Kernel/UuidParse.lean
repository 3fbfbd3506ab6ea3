import Mathlib.Data.List.Induction
import Mathlib.Data.Nat.Basic
import Paraegox.Kernel.Uuid
import Paraegox.Text.Unicode

/-!
# Reading UUIDs

`Uuid::from_str` reads 32 hexadecimal digits of either case, or the hyphenated groups,
bare, in braces or as a URN.  The text a UUID is written as is the second of these.
-/

namespace Paraegox

namespace Uuid

/-- The number some hexadecimal digits write. -/
def hexNumber (ds : List Char) : Option Nat :=
  ds.foldlM (fun n c => (hexValue c).map fun d => n * 16 + d) 0

/-- The digits of five groups, where the hyphens stand between them. -/
def unhyphenate (cs : List Char) : Option (List Char) :=
  if cs.length = 36 ∧ cs[8]? = some '-' ∧ cs[13]? = some '-' ∧ cs[18]? = some '-' ∧
      cs[23]? = some '-' then
    some (cs.take 8 ++ (cs.drop 9).take 4 ++ (cs.drop 14).take 4 ++ (cs.drop 19).take 4 ++
      cs.drop 24)
  else none

/-- The digits of a text. -/
def textDigits (cs : List Char) : Option (List Char) :=
  if cs.length = 32 then some cs
  else if cs.length = 36 then unhyphenate cs
  else if cs.length = 38 ∧ cs.head? = some '{' ∧ cs.getLast? = some '}' then
    unhyphenate (cs.drop 1).dropLast
  else if cs.length = 45 ∧ cs.take 9 = ['u', 'r', 'n', ':', 'u', 'u', 'i', 'd', ':'] then
    unhyphenate (cs.drop 9)
  else none

/-- `Uuid::from_str`. -/
def fromStr (s : String) : Option Uuid :=
  ((textDigits s.toList).bind hexNumber).map fun n => ⟨BitVec.ofNat 128 n⟩

/-- The lowest digits of a number, most significant first, write what is left of it. -/
theorem foldlM_digits (k n acc : Nat) :
    ((List.range k).map fun i => Nat.digitChar (n / 16 ^ (k - 1 - i) % 16)).foldlM
      (fun n c => (hexValue c).map fun d => n * 16 + d) acc =
      some (acc * 16 ^ k + n % 16 ^ k) := by
  induction k generalizing n with
  | zero => simp [Nat.mod_one]
  | succ k ih =>
      have hinit : ((List.range k).map fun i => Nat.digitChar (n / 16 ^ (k - i) % 16)) =
          (List.range k).map fun i => Nat.digitChar (n / 16 / 16 ^ (k - 1 - i) % 16) := by
        refine List.map_congr_left ?_
        intro i hi
        have hi : i < k := List.mem_range.mp hi
        rw [Nat.div_div_eq_div_mul, ← Nat.pow_succ', show (k - 1 - i).succ = k - i by omega]
      have hlast : hexValue (Nat.digitChar (n % 16)) = some (n % 16) :=
        hexValue_digitChar (Nat.mod_lt _ (by decide))
      rw [Nat.add_sub_cancel, List.range_succ, List.map_append, hinit, List.foldlM_append, ih]
      simp only [Option.bind_eq_bind, Option.bind_some, List.map_cons, List.map_nil,
        List.foldlM_cons, List.foldlM_nil, Nat.sub_self, Nat.pow_zero, Nat.div_one, hlast,
        Option.map_some]
      have hmod : n % 16 ^ (k + 1) = n % 16 + 16 * (n / 16 % 16 ^ k) := by
        rw [Nat.pow_succ', Nat.mod_mul]
      rw [hmod, Nat.pow_succ, Nat.add_mul, Nat.mul_assoc]
      congr 1
      omega

theorem hexNumber_digits (u : Uuid) : hexNumber u.digits = some u.bits.toNat := by
  have h := foldlM_digits 32 u.bits.toNat 0
  have hlt : u.bits.toNat < 16 ^ 32 := u.bits.isLt
  rw [Nat.zero_mul, Nat.zero_add, Nat.mod_eq_of_lt hlt] at h
  exact h

theorem unhyphenate_hyphenate {ds : List Char} (h : ds.length = 32) :
    unhyphenate (hyphenate ds) = some ds := by
  have hgroups : ∀ a b c d e : List Char, a.length = 8 → b.length = 4 → c.length = 4 →
      d.length = 4 → e.length = 12 →
      unhyphenate (a ++ '-' :: b ++ '-' :: c ++ '-' :: d ++ '-' :: e) =
        some (a ++ b ++ c ++ d ++ e) := by
    intro a b c d e ha hb hc hd he
    rw [unhyphenate, if_pos (by simp [ha, hb, hc, hd, he])]
    simp [List.drop_append, List.drop_eq_nil_of_le, ha, hb, hc, hd]
  rw [hyphenate, hgroups _ _ _ _ _ (by simp [h]) (by simp [h]) (by simp [h]) (by simp [h])
    (by simp [h])]
  simp only [List.append_assoc, join_groups]

/-- The text of a UUID is read back. -/
theorem fromStr_hyphenated (u : Uuid) : fromStr u.hyphenated = some u := by
  have hlen : (hyphenate u.digits).length = 36 := by
    have hdigits := u.length_digits
    simp only [hyphenate, List.length_append, List.length_cons, List.length_take,
      List.length_drop]
    omega
  rw [fromStr, hyphenated, String.toList_ofList, textDigits, if_neg (by omega), if_pos hlen,
    unhyphenate_hyphenate u.length_digits, Option.bind_some, hexNumber_digits, Option.map_some,
    BitVec.ofNat_toNat, BitVec.setWidth_eq]

/-- Some hexadecimal digits are those of a number. -/
theorem exists_number (ds : List Char) (h : ∀ c ∈ ds, ∃ d < 16, Nat.digitChar d = c) :
    ∃ n < 16 ^ ds.length, ((List.range ds.length).map fun i =>
      Nat.digitChar (n / 16 ^ (ds.length - 1 - i) % 16)) = ds := by
  induction ds using List.reverseRecOn with
  | nil => exact ⟨0, by decide, rfl⟩
  | append_singleton ds c ih =>
      obtain ⟨n, hn, hinit⟩ := ih fun c hc => h c (List.mem_append_left _ hc)
      obtain ⟨d, hd, rfl⟩ := h c (List.mem_append_right _ (List.mem_singleton_self c))
      refine ⟨n * 16 + d, ?_, ?_⟩
      · rw [List.length_append, List.length_singleton, Nat.pow_succ]
        omega
      · rw [List.length_append, List.length_singleton, List.range_succ, List.map_append,
          List.map_singleton, Nat.add_sub_cancel, Nat.sub_self, Nat.pow_zero, Nat.div_one,
          show (n * 16 + d) % 16 = d by omega]
        refine congrArg (· ++ [Nat.digitChar d]) (Eq.trans (List.map_congr_left ?_) hinit)
        intro i hi
        have hi : i < ds.length := List.mem_range.mp hi
        rw [show ds.length - i = (ds.length - 1 - i).succ by omega, Nat.pow_succ',
          ← Nat.div_div_eq_div_mul, show (n * 16 + d) / 16 = n by omega]

/-- Any 32 lowercase digits are those of a UUID. -/
theorem exists_digits (ds : List Char) (hlen : ds.length = 32)
    (h : ∀ c ∈ ds, ∃ d < 16, Nat.digitChar d = c) : ∃ u : Uuid, u.digits = ds := by
  obtain ⟨n, hn, hds⟩ := exists_number ds h
  rw [hlen] at hn hds
  refine ⟨⟨BitVec.ofNat 128 n⟩, ?_⟩
  rw [digits, BitVec.toNat_ofNat, Nat.mod_eq_of_lt (by exact hn)]
  exact hds

end Uuid

end Paraegox
