import Mathlib.Data.Prod.Basic
import Paraegox.Text.Json

/-!
# What a reader asks of a JSON value

The derived `Deserialize` of a struct takes an object, whose fields may stand in any order
among others, or an array of the fields in their order.  A unit variant is its name, or an
object of its name and `null`.
-/

namespace Paraegox

namespace Json

/-! ## Parts of an object -/

/-- The value of a field. -/
def field (fields : List (String × Json)) (name : String) : Option Json :=
  match fields.filter fun entry => entry.1 = name with
  | [entry] => some entry.2
  | _ => none

def toFields : Json → Option (List (String × Json))
  | .obj fields => some fields
  | _ => none

def toText : Json → Option String
  | .str s => some s
  | _ => none

/-- A `u64`. -/
def toU64 : Json → Option Nat
  | .num n => if n < 2 ^ 64 then some n else none
  | _ => none

/-- A field of text. -/
def textField (fields : List (String × Json)) (name : String) : Option String :=
  (field fields name).bind toText

/-- No field but these. -/
def onlyFields (fields : List (String × Json)) (names : List String) : Bool :=
  fields.all fun entry => entry.1 ∈ names

/-- The value of a field that may be missing or `null`. -/
def optionField (fields : List (String × Json)) (name : String) : Option (Option Json) :=
  match fields.filter fun entry => entry.1 = name with
  | [] => some none
  | [(_, .null)] => some none
  | [(_, value)] => some (some value)
  | _ => none

/-! ## Values -/

/-- The fields of a struct. -/
def structFields (names : List String) : Json → Option (List (String × Json))
  | .obj fields => some fields
  | .arr items => if items.length = names.length then some (names.zip items) else none
  | _ => none

/-- The name of a unit variant. -/
def toVariant : Json → Option String
  | .str name => some name
  | .obj [(name, .null)] => some name
  | _ => none

def toItems : Json → Option (List Json)
  | .arr items => some items
  | _ => none

def toBool : Json → Option Bool
  | .bool b => some b
  | _ => none

/-- Items are read back one by one. -/
theorem mapM_map_some {α β : Type} {f : α → β} {g : β → Option α} (h : ∀ a, g (f a) = some a)
    (as : List α) : (as.map f).mapM g = some as := by
  induction as with
  | nil => rfl
  | cons a as ih => rw [List.map_cons, List.mapM_cons, h, ih]; rfl

end Json

end Paraegox
