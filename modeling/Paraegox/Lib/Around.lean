import Mathlib.Data.List.Basic

/-!
# A list around one of its positions

An element is taken out of the middle of a list, or put in its place.  What is known of
the list splits into what is known of the element and of the rest.
-/

variable {α : Type*} {β : Type*}

/-- A list around one of its positions. -/
theorem around_of_getElem? {l : List α} {k : Nat} {a : α} (h : l[k]? = some a) :
    ∃ l₁ l₂, l = l₁ ++ a :: l₂ ∧ l.eraseIdx k = l₁ ++ l₂ ∧
      ∀ b, l.set k b = l₁ ++ b :: l₂ := by
  obtain ⟨hk, rfl⟩ := List.getElem?_eq_some_iff.mp h
  refine ⟨l.take k, l.drop (k + 1), ?_, List.eraseIdx_eq_take_drop_succ l k, fun b => ?_⟩
  · rw [List.getElem_cons_drop, List.take_append_drop]
  · rw [List.set_eq_take_append_cons_drop, if_pos hk]

theorem forall_mem_around {p : α → Prop} {l₁ l₂ : List α} {y : α}
    (h : ∀ z ∈ l₁ ++ y :: l₂, p z) : p y ∧ ∀ z ∈ l₁ ++ l₂, p z := by
  rw [List.forall_mem_append, List.forall_mem_cons] at h
  exact ⟨h.2.1, List.forall_mem_append.mpr ⟨h.1, h.2.2⟩⟩

/-- The number of elements with a value, around one of them. -/
theorem count_map_around [BEq β] (f : α → β) (b : β) (l₁ l₂ : List α) (x : α) :
    ((l₁ ++ x :: l₂).map f).count b = ((l₁ ++ l₂).map f).count b + [f x].count b := by
  simp only [List.map_append, List.map_cons, List.count_append, List.count_cons, List.count_nil]
  omega

theorem count_map_concat [BEq β] (f : α → β) (b : β) (l : List α) (x : α) :
    ((l ++ [x]).map f).count b = (l.map f).count b + [f x].count b := by
  rw [List.map_append, List.count_append, List.map_singleton]
