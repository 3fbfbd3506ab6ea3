import Mathlib.Algebra.Group.Nat.Defs
import Mathlib.Data.List.Basic

/-!
# UUIDs

A UUID is 128 bits.  Its text form is the canonical one, 32 lower-case
hexadecimal digits in groups of 8, 4, 4, 4 and 12.  `Uuid::new_v4` picks the
bits, so a fresh identifier is an argument of the operation that takes one.
-/

namespace Paraegox

/-- A UUID. -/
structure Uuid where
  bits : BitVec 128
deriving DecidableEq, Repr

namespace Uuid

/-- The hexadecimal digits, most significant first. -/
def digits (u : Uuid) : List Char :=
  (List.range 32).map fun i => Nat.digitChar (u.bits.toNat / 16 ^ (31 - i) % 16)

/-- Digits in their groups. -/
def hyphenate (ds : List Char) : List Char :=
  ds.take 8 ++ '-' :: (ds.drop 8).take 4 ++ '-' :: (ds.drop 12).take 4 ++
    '-' :: (ds.drop 16).take 4 ++ '-' :: ds.drop 20

/-- The hyphenated text. -/
def hyphenated (u : Uuid) : String := String.ofList (hyphenate u.digits)

theorem length_digits (u : Uuid) : u.digits.length = 32 := by
  rw [digits, List.length_map, List.length_range]

/-- Every digit is one of the sixteen. -/
theorem mem_digits {u : Uuid} {c : Char} (h : c ∈ u.digits) :
    c ∈ ['0', '1', '2', '3', '4', '5', '6', '7', '8', '9', 'a', 'b', 'c', 'd', 'e', 'f'] := by
  obtain ⟨i, -, rfl⟩ := List.mem_map.mp h
  have hdigit : ∀ k < 16, Nat.digitChar k ∈
      ['0', '1', '2', '3', '4', '5', '6', '7', '8', '9', 'a', 'b', 'c', 'd', 'e', 'f'] := by
    decide
  exact hdigit _ (Nat.mod_lt _ (by decide))

theorem mem_hyphenate {ds : List Char} {c : Char} (h : c ∈ hyphenate ds) : c = '-' ∨ c ∈ ds := by
  simp only [hyphenate, List.mem_append, List.mem_cons] at h
  rcases h with (((h | rfl | h) | rfl | h) | rfl | h) | rfl | h
  · exact .inr (List.mem_of_mem_take h)
  · exact .inl rfl
  · exact .inr (List.mem_of_mem_drop (List.mem_of_mem_take h))
  · exact .inl rfl
  · exact .inr (List.mem_of_mem_drop (List.mem_of_mem_take h))
  · exact .inl rfl
  · exact .inr (List.mem_of_mem_drop (List.mem_of_mem_take h))
  · exact .inl rfl
  · exact .inr (List.mem_of_mem_drop h)

theorem join_groups (ds : List Char) :
    ds.take 8 ++ ((ds.drop 8).take 4 ++ ((ds.drop 12).take 4 ++
      ((ds.drop 16).take 4 ++ ds.drop 20))) = ds := by
  have hgroup (n : Nat) : (ds.drop n).take 4 ++ ds.drop (n + 4) = ds.drop n := by
    rw [← List.drop_drop]
    exact List.take_append_drop 4 (ds.drop n)
  rw [hgroup 16, hgroup 12, hgroup 8, List.take_append_drop]

/-- Without the hyphens the digits are left. -/
theorem filter_hyphenate {ds : List Char} (h : '-' ∉ ds) :
    (hyphenate ds).filter (fun c => c ≠ '-') = ds := by
  have hself : ds.filter (fun c => c ≠ '-') = ds :=
    List.filter_eq_self.mpr fun c hc => by
      simpa using fun hd : c = '-' => h (hd ▸ hc)
  have hfilter := congrArg (List.filter fun c => decide (c ≠ '-')) (join_groups ds)
  rw [hself] at hfilter
  simpa [hyphenate, List.filter_append, List.filter_cons] using hfilter

end Uuid

example : (⟨0x936da01f9abd4d9d80c702af85c822a8⟩ : Uuid).hyphenated =
    "936da01f-9abd-4d9d-80c7-02af85c822a8" := by decide

end Paraegox
