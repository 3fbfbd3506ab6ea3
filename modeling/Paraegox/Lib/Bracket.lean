import Mathlib.Data.List.Basic
import Mathlib.Data.List.Nodup

/-!
# Opening in order, closing in reverse

Some things are opened one after the other.  An opening may succeed, be refused,
or be given up without an answer.  The first that does not succeed ends the
ascent, and then everything that may be open is closed in reverse order; a refused
opening left nothing behind.  A full ascent is closed the same way later.

`ascent_append` is the law that matters: an ascent in two parts, where a failure
of the second part closes its own things first and then those of the first part,
is the ascent of both parts taken together.
-/

namespace Bracket

universe u

/-- How an opening ends. -/
inductive Opening where
  | opened
  | refused
  | uncertain
deriving DecidableEq, Repr

/-- One operation. -/
inductive Step (ι : Type u) where
  | opens (i : ι)
  | closes (i : ι)
deriving DecidableEq, Repr

variable {ι : Type u} (f : ι → Opening)

/-- All of these open. -/
def AllOpen (is : List ι) : Prop := ∀ i ∈ is, f i = .opened

instance (is : List ι) : Decidable (AllOpen f is) := inferInstanceAs (Decidable (∀ i ∈ is, _))

/-- The openings that are tried: up to the first that does not succeed. -/
def attempted : List ι → List ι
  | [] => []
  | i :: is => if f i = .opened then i :: attempted is else [i]

/-- What may be open after these openings were tried. -/
def held (is : List ι) : List ι := (attempted f is).filter fun i => f i ≠ .refused

/-- The operations of an ascent and, where it fails, of its rollback. -/
def ascent (is : List ι) : List (Step ι) :=
  (attempted f is).map .opens ++ if AllOpen f is then [] else (held f is).reverse.map .closes

variable {f}

theorem allOpen_cons {i : ι} {is : List ι} :
    AllOpen f (i :: is) ↔ f i = .opened ∧ AllOpen f is := by
  simp [AllOpen]

theorem attempted_prefix (is : List ι) : attempted f is <+: is := by
  induction is with
  | nil => exact List.prefix_rfl
  | cons i is ih =>
      rw [attempted]
      split_ifs
      · exact (List.prefix_cons_inj i).mpr ih
      · exact ⟨is, rfl⟩

theorem attempted_of_allOpen {is : List ι} (h : AllOpen f is) : attempted f is = is := by
  induction is with
  | nil => rfl
  | cons i is ih =>
      rw [attempted, if_pos (h i List.mem_cons_self),
        ih fun j hj => h j (List.mem_cons_of_mem _ hj)]

theorem held_of_allOpen {is : List ι} (h : AllOpen f is) : held f is = is := by
  rw [held, attempted_of_allOpen h, List.filter_eq_self]
  intro i hi
  simp [h i hi]

/-- After a part that opened, the next part is tried. -/
theorem attempted_append {is js : List ι} (h : AllOpen f is) :
    attempted f (is ++ js) = is ++ attempted f js := by
  induction is with
  | nil => rfl
  | cons i is ih =>
      rw [List.cons_append, attempted, if_pos (h i List.mem_cons_self),
        ih fun j hj => h j (List.mem_cons_of_mem _ hj), List.cons_append]

/-- After a part that did not open, nothing more is tried. -/
theorem attempted_append_of_not {is js : List ι} (h : ¬ AllOpen f is) :
    attempted f (is ++ js) = attempted f is := by
  induction is with
  | nil => exact absurd (fun i hi => absurd hi List.not_mem_nil) h
  | cons i is ih =>
      rw [List.cons_append, attempted, attempted]
      split_ifs with hi
      · rw [ih fun hall => h fun j hj => ?_]
        rcases List.mem_cons.mp hj with rfl | hj
        · exact hi
        · exact hall j hj
      · rfl

/-- Of some that do not all open, one is tried after those that open before it. -/
theorem attempted_of_not {is : List ι} (h : ¬ AllOpen f is) :
    ∃ opened i, attempted f is = opened ++ [i] ∧ AllOpen f opened ∧ f i ≠ .opened := by
  induction is with
  | nil => exact absurd (fun i hi => absurd hi List.not_mem_nil) h
  | cons i is ih =>
      rw [attempted]
      split_ifs with hi
      · obtain ⟨opened, j, heq, hopened, hj⟩ :=
          ih fun hall => h (allOpen_cons.mpr ⟨hi, hall⟩)
        exact ⟨i :: opened, j, by rw [heq, List.cons_append], allOpen_cons.mpr ⟨hi, hopened⟩, hj⟩
      · exact ⟨[], i, rfl, fun j hj => absurd hj List.not_mem_nil, hi⟩

theorem held_append {is js : List ι} (h : AllOpen f is) :
    held f (is ++ js) = is ++ held f js := by
  have his : is.filter (fun i => decide (f i ≠ .refused)) = is :=
    List.filter_eq_self.mpr fun i hi => by simp [h i hi]
  rw [held, attempted_append h, List.filter_append, his, held]

theorem held_append_of_not {is js : List ι} (h : ¬ AllOpen f is) :
    held f (is ++ js) = held f is := by
  rw [held, attempted_append_of_not h, held]

theorem allOpen_append {is js : List ι} :
    AllOpen f (is ++ js) ↔ AllOpen f is ∧ AllOpen f js := by
  simp [AllOpen, or_imp, forall_and]

/-- An ascent in two parts is the ascent of both: the rollback of the second part
goes on with the first. -/
theorem ascent_append {is js : List ι} (h : AllOpen f is) :
    ascent f (is ++ js) = is.map .opens ++ ascent f js ++
      if AllOpen f js then [] else is.reverse.map .closes := by
  rw [ascent, ascent, attempted_append h, held_append h]
  by_cases hjs : AllOpen f js
  · simp [allOpen_append, h, hjs]
  · simp [allOpen_append, hjs]

theorem ascent_append_of_not {is js : List ι} (h : ¬ AllOpen f is) :
    ascent f (is ++ js) = ascent f is := by
  have hall : ¬ AllOpen f (is ++ js) := fun hall => h (allOpen_append.mp hall).1
  rw [ascent, ascent, attempted_append_of_not h, held_append_of_not h, if_neg hall, if_neg h]

/-- Whatever is closed was opened before. -/
theorem held_sublist (is : List ι) : (held f is).Sublist (attempted f is) :=
  List.filter_sublist

end Bracket
