import Mathlib.Algebra.GroupWithZero.Nat

/-!
# Compact JSON text

A JSON tree and the text serde_json writes for it with `to_vec`: no blanks, a
string escaped at the quote, the backslash and the controls below U+0020, every
other character as it is.  The numbers of the wire formats are all natural.
-/

namespace Paraegox

/-- A JSON value. -/
inductive Json where
  | null
  | bool (b : Bool)
  | num (n : Nat)
  | str (s : String)
  | arr (items : List Json)
  | obj (fields : List (String × Json))

namespace Json

/-- The escape of one character inside a string. -/
def escape (c : Char) : List Char :=
  if c = '"' then ['\\', '"']
  else if c = '\\' then ['\\', '\\']
  else if c.toNat = 0x08 then ['\\', 'b']
  else if c.toNat = 0x09 then ['\\', 't']
  else if c.toNat = 0x0a then ['\\', 'n']
  else if c.toNat = 0x0c then ['\\', 'f']
  else if c.toNat = 0x0d then ['\\', 'r']
  else if c.toNat < 0x20 then
    ['\\', 'u', '0', '0', Nat.digitChar (c.toNat / 16), Nat.digitChar (c.toNat % 16)]
  else [c]

/-- A quoted string. -/
def quote (s : String) : List Char := '"' :: (s.toList.flatMap escape ++ ['"'])

mutual

/-- The text of a value. -/
def render : Json → List Char
  | .null => ['n', 'u', 'l', 'l']
  | .bool true => ['t', 'r', 'u', 'e']
  | .bool false => ['f', 'a', 'l', 's', 'e']
  | .num n => Nat.toDigits 10 n
  | .str s => quote s
  | .arr items => '[' :: (renderItems items ++ [']'])
  | .obj fields => '{' :: (renderFields fields ++ ['}'])

/-- The items of an array, separated by commas. -/
def renderItems : List Json → List Char
  | [] => []
  | [item] => render item
  | item :: next :: items => render item ++ ',' :: renderItems (next :: items)

/-- The fields of an object, separated by commas. -/
def renderFields : List (String × Json) → List Char
  | [] => []
  | [(name, value)] => quote name ++ ':' :: render value
  | (name, value) :: next :: fields =>
      quote name ++ ':' :: (render value ++ ',' :: renderFields (next :: fields))

end

/-- The number of bytes `serde_json::to_vec` writes. -/
def encodedLen (j : Json) : Nat := (j.render.map Char.utf8Size).sum

end Json

end Paraegox
