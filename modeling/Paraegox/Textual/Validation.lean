import Mathlib.Data.List.DropRight
import Paraegox.Agent.Types
import Paraegox.Lib.Except

/-!
# What the client checks in a frame

The checks of the Python client on the object a line decodes to, as far as they do
not depend on the state of the backend, and that the identifiers and terminals the
adapter writes pass them.
-/

namespace Paraegox.Textual

open Agent (SessionId TurnFailure TurnId TurnTerminal)

/-- `BackendError`, by its text. -/
structure BackendError where
  message : String
deriving DecidableEq, Repr

/-- A decoded object. -/
abbrev Frame := List (String × Json)

/-- `require_exact_fields`. -/
def requireExactFields (value : Frame) (expected : List String) (description : String) :
    Except BackendError Unit :=
  if (∀ field ∈ value, field.1 ∈ expected) ∧ ∀ name ∈ expected, name ∈ value.map Prod.fst then
    .ok ()
  else .error ⟨"Paraegox " ++ description ++ " fields do not match protocol v1"⟩

/-! ## Identifiers -/

/-- `str.replace` of a nonempty pattern by nothing; `skip` characters belong to an
occurrence already. -/
def removeAll (pattern : List Char) : Nat → List Char → List Char
  | _, [] => []
  | skip + 1, _ :: text => removeAll pattern skip text
  | 0, c :: text =>
      if pattern.isPrefixOf (c :: text) then removeAll pattern (pattern.length - 1) text
      else c :: removeAll pattern 0 text

def isBrace (c : Char) : Bool := c = '{' || c = '}'

def isHexDigit (c : Char) : Bool :=
  ('0' ≤ c && c ≤ '9') || ('a' ≤ c && c ≤ 'f') || ('A' ≤ c && c ≤ 'F')

/-- The text of `UUID(value)`: a prefix, braces and hyphens are optional around 32
hexadecimal digits. -/
def uuidText (value : String) : Option String :=
  let hex := removeAll ['u', 'u', 'i', 'd', ':'] 0 (removeAll ['u', 'r', 'n', ':'] 0 value.toList)
  let hex := ((hex.dropWhile isBrace).rdropWhile isBrace).filter fun c => c ≠ '-'
  if hex.length = 32 ∧ hex.all isHexDigit then
    some (String.ofList (Uuid.hyphenate (hex.map Char.toLower)))
  else none

/-- `canonical_uuid`. -/
def canonicalUuid (value : Option Json) (description : String) : Except BackendError String :=
  match value with
  | some (.str text) =>
      match uuidText text with
      | none => .error ⟨"Paraegox " ++ description ++ " is not a valid UUID"⟩
      | some canonical =>
          if canonical ≠ text then
            .error ⟨"Paraegox " ++ description ++ " must use canonical UUID form"⟩
          else .ok canonical
  | _ => .error ⟨"Paraegox " ++ description ++ " must be a UUID string"⟩

theorem removeAll_of_not_mem {p : Char} {ps text : List Char} (h : p ∉ text) :
    removeAll (p :: ps) 0 text = text := by
  induction text with
  | nil => rfl
  | cons c text ih =>
      have hpc : p ≠ c := fun hpc => h (hpc ▸ List.mem_cons_self)
      rw [removeAll, List.isPrefixOf_cons_cons, if_neg (by simp [hpc]),
        ih fun hmem => h (List.mem_cons_of_mem _ hmem)]

/-- The text of an identifier is its own canonical form. -/
theorem uuidText_hyphenated (u : Uuid) : uuidText u.hyphenated = some u.hyphenated := by
  have hchars : ∀ c ∈ Uuid.hyphenate u.digits, c ∈ ['-', '0', '1', '2', '3', '4', '5', '6', '7',
      '8', '9', 'a', 'b', 'c', 'd', 'e', 'f'] := by
    intro c hc
    rcases Uuid.mem_hyphenate hc with rfl | hc
    · exact List.mem_cons_self
    · exact List.mem_cons_of_mem _ (Uuid.mem_digits hc)
  have hnot (c : Char) (hc : c ∉ ['-', '0', '1', '2', '3', '4', '5', '6', '7', '8', '9', 'a', 'b',
      'c', 'd', 'e', 'f']) : c ∉ Uuid.hyphenate u.digits :=
    fun hmem => hc (hchars c hmem)
  have hurn : removeAll ['u', 'r', 'n', ':'] 0 (Uuid.hyphenate u.digits) =
      Uuid.hyphenate u.digits :=
    removeAll_of_not_mem (hnot 'u' (by decide))
  have huuid : removeAll ['u', 'u', 'i', 'd', ':'] 0 (Uuid.hyphenate u.digits) =
      Uuid.hyphenate u.digits :=
    removeAll_of_not_mem (hnot 'u' (by decide))
  have hbrace : ∀ c ∈ Uuid.hyphenate u.digits, isBrace c = false := by
    intro c hc
    exact (by simp [isBrace] : ∀ c ∈ ['-', '0', '1', '2', '3', '4', '5', '6', '7', '8', '9', 'a',
      'b', 'c', 'd', 'e', 'f'], isBrace c = false) c (hchars c hc)
  have hstrip : ((Uuid.hyphenate u.digits).dropWhile isBrace).rdropWhile isBrace =
      Uuid.hyphenate u.digits := by
    have hdrop : (Uuid.hyphenate u.digits).dropWhile isBrace = Uuid.hyphenate u.digits :=
      List.dropWhile_eq_self_iff.mpr fun _ => by simp [hbrace _ (List.getElem_mem _)]
    rw [hdrop]
    exact List.rdropWhile_eq_self_iff.mpr fun hne => by simp [hbrace _ (List.getLast_mem hne)]
  have hhyphen : '-' ∉ u.digits := fun h => absurd (Uuid.mem_digits h) (by decide)
  have hhex : ∀ c ∈ u.digits, isHexDigit c = true ∧ c.toLower = c := by
    intro c hc
    exact (by simp [isHexDigit] : ∀ c ∈ ['0', '1', '2', '3', '4', '5', '6', '7', '8', '9', 'a',
      'b', 'c', 'd', 'e', 'f'], isHexDigit c = true ∧ c.toLower = c) c (Uuid.mem_digits hc)
  have hlower : u.digits.map Char.toLower = u.digits :=
    (List.map_congr_left fun c hc => (hhex c hc).2).trans (List.map_id _)
  rw [uuidText, Uuid.hyphenated, String.toList_ofList, hurn, huuid]
  simp only [hstrip, Uuid.filter_hyphenate hhyphen, hlower]
  rw [if_pos ⟨u.length_digits, List.all_eq_true.mpr fun c hc => (hhex c hc).1⟩]

theorem canonicalUuid_hyphenated (u : Uuid) (description : String) :
    canonicalUuid (some (.str u.hyphenated)) description = .ok u.hyphenated := by
  rw [canonicalUuid, uuidText_hyphenated]
  simp

/-! ## Terminals -/

def TERMINALS : List String := ["final", "cancelled", "timed_out", "failed"]

/-- `_validate_terminal`. -/
def validateTerminal (terminal : Option Json) : Except BackendError Unit :=
  match terminal with
  | some (.obj terminal) =>
      match terminal.lookup "terminal" with
      | some (.str kind) =>
          if kind ∉ TERMINALS then .error ⟨"Paraegox backend sent an unknown Turn terminal"⟩
          else do
            requireExactFields terminal
              ((if kind = "final" then ["terminal", "content"] else ["terminal"]) ++
                if kind = "failed" then ["reason"] else []) "Turn terminal"
            match decide (kind = "final"), terminal.lookup "content" with
            | true, some (.str _) => pure ()
            | true, _ => .error ⟨"Paraegox final content must be text"⟩
            | false, _ => pure ()
            match decide (kind = "failed"), terminal.lookup "reason" with
            | true, some (.str _) => pure ()
            | true, _ => .error ⟨"Paraegox failure reason must be text"⟩
            | false, _ => pure ()
      | _ => .error ⟨"Paraegox backend sent an unknown Turn terminal"⟩
  | _ => .error ⟨"Paraegox Turn terminal must be an object"⟩

/-- Every terminal the Agent knows is one the client knows. -/
theorem validateTerminal_toJson (terminal : TurnTerminal) :
    validateTerminal (some terminal.toJson) = .ok () := by
  cases terminal with
  | final content => rfl
  | cancelled => rfl
  | timedOut => rfl
  | failed reason => cases reason <;> rfl

end Paraegox.Textual
