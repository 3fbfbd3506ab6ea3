import Mathlib.Algebra.Ring.Nat
import Mathlib.Data.List.AList

/-!
# The weight of a map

The sum of a number over the entries of an association list, as entries are written and
erased.
-/

namespace AList

variable {α β : Type*}

/-- The sum of `f` over the entries. -/
def weight (f : β → Nat) (m : AList fun _ : α => β) : Nat :=
  (m.entries.map fun entry => f entry.2).sum

theorem weight_le_add {f g : β → Nat} {n : Nat} (h : ∀ b, f b ≤ g b + n)
    (m : AList fun _ : α => β) : m.weight f ≤ m.weight g + n * m.weight fun _ => 1 := by
  rw [weight, weight, weight]
  induction m.entries with
  | nil => simp
  | cons entry entries ih =>
      have hentry := h entry.2
      simp only [List.map_cons, List.sum_cons, Nat.mul_add, Nat.mul_one]
      omega

variable [DecidableEq α]

theorem weight_insert (f : β → Nat) (m : AList fun _ : α => β) (a : α) (b : β) :
    (m.insert a b).weight f = f b + (m.erase a).weight f := rfl

/-- An entry and the others. -/
theorem sum_kerase (f : β → Nat) {a : α} {b : β} {entries : List (Sigma fun _ : α => β)}
    (h : entries.dlookup a = some b) :
    (entries.map fun entry => f entry.2).sum =
      f b + ((entries.kerase a).map fun entry => f entry.2).sum := by
  induction entries with
  | nil => cases h
  | cons entry entries ih =>
      by_cases heq : a = entry.1
      · obtain ⟨a', b'⟩ := entry
        obtain rfl : a = a' := heq
        rw [List.dlookup_cons_eq] at h
        have hkerase : List.kerase a (⟨a, b'⟩ :: entries) = entries := List.kerase_cons_eq rfl
        rw [hkerase, ← Option.some.inj h, List.map_cons, List.sum_cons]
      · rw [List.dlookup_cons_ne _ _ heq] at h
        rw [List.kerase_cons_ne heq, List.map_cons, List.sum_cons, ih h, List.map_cons,
          List.sum_cons]
        omega

theorem weight_of_lookup (f : β → Nat) {m : AList fun _ : α => β} {a : α} {b : β}
    (h : m.lookup a = some b) : m.weight f = f b + (m.erase a).weight f :=
  sum_kerase f h

end AList
