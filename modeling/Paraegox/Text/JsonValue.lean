import Mathlib.Data.List.Nodup
import Paraegox.Text.JsonFields
import Paraegox.Text.Utf8

/-!
# Values of serde_json

`serde_json::to_value` keeps the fields of an object in a `BTreeMap`, so they are written in
the order of their names.  Whoever looks a field up by its name finds it all the same.
-/

namespace Paraegox.Json

/-- `BTreeMap::insert`; names compare by their bytes. -/
def insertField (name : String) (value : Json) : List (String × Json) → List (String × Json)
  | [] => [(name, value)]
  | (name', value') :: fields =>
      if name = name' then (name, value) :: fields
      else if (utf8 name).lex (utf8 name') fun b b' => b < b' then
        (name, value) :: (name', value') :: fields
      else (name', value') :: insertField name value fields

mutual

/-- `serde_json::to_value`, of what is written so. -/
def toValue : Json → Json
  | .null => .null
  | .bool b => .bool b
  | .num n => .num n
  | .str s => .str s
  | .arr items => .arr (toValues items)
  | .obj fields => .obj (fieldValues fields [])

def toValues : List Json → List Json
  | [] => []
  | item :: items => toValue item :: toValues items

/-- The fields, inserted one after the other. -/
def fieldValues : List (String × Json) → List (String × Json) → List (String × Json)
  | [], map => map
  | (name, value) :: fields, map => fieldValues fields (insertField name (toValue value) map)

end

@[simp] theorem toValue_bool (b : Bool) : toValue (.bool b) = .bool b := rfl

@[simp] theorem toValue_num (n : Nat) : toValue (.num n) = .num n := rfl

@[simp] theorem toValue_str (s : String) : toValue (.str s) = .str s := rfl

@[simp] theorem toValue_arr (items : List Json) : toValue (.arr items) = .arr (toValues items) :=
  rfl

@[simp] theorem toValue_obj (fields : List (String × Json)) :
    toValue (.obj fields) = .obj (fieldValues fields []) := rfl

theorem toValues_map {α : Type} (f : α → Json) (as : List α) :
    toValues (as.map f) = as.map fun a => toValue (f a) := by
  induction as with
  | nil => rw [List.map_nil, toValues, List.map_nil]
  | cons a as ih => rw [List.map_cons, toValues, ih, List.map_cons]

/-! ## Fields by name -/

/-- The fields of this name. -/
def named (fields : List (String × Json)) (name : String) : List (String × Json) :=
  fields.filter fun entry => entry.1 = name

theorem named_cons (name : String) (value : Json) (fields : List (String × Json))
    (other : String) : named ((name, value) :: fields) other =
      (if name = other then [(name, value)] else []) ++ named fields other := by
  by_cases h : name = other <;> simp [named, h]

/-- A new field is found, and so are those it joins. -/
theorem named_insertField {fields : List (String × Json)} {name : String} (value : Json)
    (h : name ∉ fields.map Prod.fst) (other : String) :
    named (insertField name value fields) other =
      (if name = other then [(name, value)] else []) ++ named fields other := by
  induction fields with
  | nil => exact named_cons name value [] other
  | cons entry fields ih =>
      obtain ⟨name', value'⟩ := entry
      rw [List.map_cons, List.mem_cons, not_or] at h
      rw [insertField, if_neg h.1]
      by_cases hlt : (utf8 name).lex (utf8 name') fun b b' => b < b'
      · rw [if_pos hlt, named_cons name]
      · rw [if_neg hlt, named_cons name', ih h.2, named_cons name']
        by_cases hname : name = other
        · have hname' : name' ≠ other := fun heq => h.1 (hname.trans heq.symm)
          rw [if_neg hname', List.nil_append, List.nil_append]
        · rw [if_neg hname, List.nil_append, List.nil_append]

theorem map_fst_insertField {fields : List (String × Json)} {name : String} (value : Json)
    (other : String) :
    other ∈ (insertField name value fields).map Prod.fst ↔
      other = name ∨ other ∈ fields.map Prod.fst := by
  induction fields with
  | nil => simp [insertField]
  | cons entry fields ih =>
      obtain ⟨name', value'⟩ := entry
      rw [insertField]
      split_ifs with heq hlt
      · simp [heq]
      · simp
      · simp only [List.map_cons, List.mem_cons, ih]
        tauto

theorem named_eq_nil {fields : List (String × Json)} {name : String}
    (h : name ∉ fields.map Prod.fst) : named fields name = [] := by
  rw [named, List.filter_eq_nil_iff]
  intro entry hentry heq
  exact h (of_decide_eq_true heq ▸ List.mem_map_of_mem hentry)

/-- A map has the fields it was given. -/
theorem named_fieldValues {fields map : List (String × Json)}
    (h : (map.map Prod.fst).Disjoint (fields.map Prod.fst)) (hnodup : (fields.map Prod.fst).Nodup)
    (other : String) :
    named (fieldValues fields map) other =
      named map other ++ (named fields other).map fun entry => (entry.1, entry.2.toValue) := by
  induction fields generalizing map with
  | nil => rw [fieldValues, named, named, List.filter_nil, List.map_nil, List.append_nil]
  | cons entry fields ih =>
      obtain ⟨name, value⟩ := entry
      rw [List.map_cons, List.nodup_cons] at hnodup
      have hnew : name ∉ map.map Prod.fst := fun hmem => h hmem List.mem_cons_self
      have hdisjoint : ((insertField name value.toValue map).map Prod.fst).Disjoint
          (fields.map Prod.fst) := by
        intro other hmem hother
        rcases (map_fst_insertField _ other).mp hmem with rfl | hmem
        · exact hnodup.1 hother
        · exact h hmem (List.mem_cons_of_mem _ hother)
      rw [fieldValues, ih hdisjoint hnodup.2, named_insertField _ hnew, named_cons name,
        List.map_append]
      by_cases hname : name = other
      · subst hname
        rw [named_eq_nil hnew, if_pos rfl, if_pos rfl, List.append_nil, List.nil_append,
          List.map_singleton]
      · rw [if_neg hname, if_neg hname, List.nil_append, List.map_nil, List.nil_append]

section

variable {fields : List (String × Json)} (h : (fields.map Prod.fst).Nodup) (name : String)

include h

theorem named_toValue : named (fieldValues fields []) name =
    (named fields name).map fun entry => (entry.1, entry.2.toValue) :=
  named_fieldValues (fun _ hmem _ => absurd hmem List.not_mem_nil) h name

/-- A field is found where it was. -/
theorem field_toValue : field (fieldValues fields []) name = (field fields name).map toValue := by
  rw [field, ← named, named_toValue h, field, ← named]
  rcases named fields name with _ | ⟨entry, _ | ⟨entry', entries⟩⟩ <;> rfl

theorem optionField_toValue : optionField (fieldValues fields []) name =
    (optionField fields name).map fun value => value.map toValue := by
  rw [optionField, ← named, named_toValue h, optionField, ← named]
  rcases named fields name with _ | ⟨⟨name', value⟩, _ | ⟨entry', entries⟩⟩
  · rfl
  · cases value <;> rfl
  · cases value <;> rfl

end

end Paraegox.Json
