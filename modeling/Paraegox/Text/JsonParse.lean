import Mathlib.Data.List.TakeDrop
import Paraegox.Text.JsonBytes

/-!
# Reading JSON text

`serde_json::from_slice` on the values the wire formats have.  Blanks between tokens,
every escape of a string, surrogate pairs and repeated names are read as RFC 8259 has
them.  A number that is not a natural one is not read, as no wire format has any.

The recursion takes fuel, and the length of the text is enough of it.  `decode_encode`
says that what `to_vec` writes is read back.
-/

namespace Paraegox

namespace Json

/-! ## Tokens -/

def isBlank (c : Char) : Bool := c = ' ' || c = '\t' || c = '\n' || c = '\r'

def skipBlank (text : List Char) : List Char := text.dropWhile isBlank

/-- The text after a word. -/
def afterWord : List Char → List Char → Option (List Char)
  | [], text => some text
  | _ :: _, [] => none
  | c :: word, d :: text => if c = d then afterWord word text else none

/-- The escapes of two characters. -/
def simpleEscapes : List (Char × Char) :=
  [('"', '"'), ('\\', '\\'), ('/', '/'), ('b', '\x08'), ('f', '\x0c'), ('n', '\n'), ('r', '\r'),
    ('t', '\t')]

/-- The four digits of an escape. -/
def parseHex4 : List Char → Option (Nat × List Char)
  | a :: b :: c :: d :: rest => do
      let a ← hexValue a
      let b ← hexValue b
      let c ← hexValue c
      let d ← hexValue d
      some (((a * 16 + b) * 16 + c) * 16 + d, rest)
  | _ => none

/-- What follows a high surrogate is the escape of a low one. -/
def parseLowSurrogate (high : Nat) : List Char → Option (Char × List Char)
  | '\\' :: 'u' :: rest => do
      let (low, rest) ← parseHex4 rest
      if 0xdc00 ≤ low ∧ low ≤ 0xdfff then
        some (Char.ofNat (0x10000 + (high - 0xd800) * 0x400 + (low - 0xdc00)), rest)
      else none
  | _ => none

/-- The character of an escape, after its backslash. -/
def parseEscape : List Char → Option (Char × List Char)
  | [] => none
  | c :: rest =>
      if c = 'u' then do
        let (n, rest) ← parseHex4 rest
        if n < 0xd800 ∨ 0xdfff < n then some (Char.ofNat n, rest)
        else if n < 0xdc00 then parseLowSurrogate n rest
        else none
      else (simpleEscapes.lookup c).map fun d => (d, rest)

/-- A string, after its opening quote. -/
def parseString : Nat → List Char → Option (List Char × List Char)
  | 0, _ => none
  | _ + 1, [] => none
  | fuel + 1, c :: rest =>
      if c = '"' then some ([], rest)
      else if c = '\\' then do
        let (d, rest) ← parseEscape rest
        let (s, rest) ← parseString fuel rest
        some (d :: s, rest)
      else if c.toNat < 0x20 then none
      else do
        let (s, rest) ← parseString fuel rest
        some (c :: s, rest)

/-- A natural number: no leading zero, no fraction and no exponent. -/
def parseNumber (text : List Char) : Option (Nat × List Char) :=
  let digits := text.takeWhile Char.isDigit
  let rest := text.dropWhile Char.isDigit
  if digits = [] ∨ (digits.head? = some '0' ∧ digits ≠ ['0']) ∨
      (rest.head?.any fun c => c = '.' ∨ c = 'e' ∨ c = 'E') then none
  else some (Nat.ofDigitChars 10 digits 0, rest)

/-! ## Values -/

mutual

/-- A value. -/
def parseValue : Nat → List Char → Option (Json × List Char)
  | 0, _ => none
  | fuel + 1, text =>
      match skipBlank text with
      | [] => none
      | c :: rest =>
          if c = 'n' then (afterWord ['u', 'l', 'l'] rest).map fun rest => (.null, rest)
          else if c = 't' then
            (afterWord ['r', 'u', 'e'] rest).map fun rest => (.bool true, rest)
          else if c = 'f' then
            (afterWord ['a', 'l', 's', 'e'] rest).map fun rest => (.bool false, rest)
          else if c = '"' then
            (parseString fuel rest).map fun p => (.str (String.ofList p.1), p.2)
          else if c = '[' then
            if (skipBlank rest).head? = some ']' then some (.arr [], (skipBlank rest).tail)
            else (parseItems fuel rest).map fun p => (.arr p.1, p.2)
          else if c = '{' then
            if (skipBlank rest).head? = some '}' then some (.obj [], (skipBlank rest).tail)
            else (parseFields fuel rest).map fun p => (.obj p.1, p.2)
          else (parseNumber (c :: rest)).map fun p => (.num p.1, p.2)

/-- The items of an array that is not empty, up to its end. -/
def parseItems : Nat → List Char → Option (List Json × List Char)
  | 0, _ => none
  | fuel + 1, text => do
      let (item, rest) ← parseValue fuel text
      match skipBlank rest with
      | [] => none
      | c :: rest =>
          if c = ',' then do
            let (items, rest) ← parseItems fuel rest
            some (item :: items, rest)
          else if c = ']' then some ([item], rest)
          else none

/-- The fields of an object that is not empty, up to its end. -/
def parseFields : Nat → List Char → Option (List (String × Json) × List Char)
  | 0, _ => none
  | fuel + 1, text => do
      let rest ← afterWord ['"'] (skipBlank text)
      let (name, rest) ← parseString fuel rest
      let rest ← afterWord [':'] (skipBlank rest)
      let (value, rest) ← parseValue fuel rest
      match skipBlank rest with
      | [] => none
      | c :: rest =>
          if c = ',' then do
            let (fields, rest) ← parseFields fuel rest
            some ((String.ofList name, value) :: fields, rest)
          else if c = '}' then some ([(String.ofList name, value)], rest)
          else none

end

/-- A value and nothing after it but blanks. -/
def parse (text : List Char) : Option Json := do
  let (j, rest) ← parseValue (text.length + 1) text
  if skipBlank rest = [] then some j else none

/-- `serde_json::from_slice`. -/
def decode (payload : List UInt8) : Option Json := do
  let s ← String.fromUTF8? ⟨payload.toArray⟩
  parse s.toList

/-! ## Strings are read back -/

/-- The escape of a character is read back. -/
theorem parseEscape_escape {c : Char} (h : isPlain c = false) (text : List Char) :
    ∃ tail, escape c = '\\' :: tail ∧ parseEscape (tail ++ text) = some (c, text) := by
  have hchar {n : Nat} (hn : c.toNat = n) : Char.ofNat n = c := by
    rw [← hn]
    exact Char.ofNat_toNat c
  rw [escape]
  split_ifs with h₁ h₂ h₃ h₄ h₅ h₆ h₇ h₈
  · exact ⟨_, rfl, by rw [h₁]; rfl⟩
  · exact ⟨_, rfl, by rw [h₂]; rfl⟩
  · exact ⟨_, rfl, by rw [← hchar h₃]; rfl⟩
  · exact ⟨_, rfl, by rw [← hchar h₄]; rfl⟩
  · exact ⟨_, rfl, by rw [← hchar h₅]; rfl⟩
  · exact ⟨_, rfl, by rw [← hchar h₆]; rfl⟩
  · exact ⟨_, rfl, by rw [← hchar h₇]; rfl⟩
  · refine ⟨_, rfl, ?_⟩
    have hzero : hexValue '0' = some 0 := by decide
    have hsum : ((0 * 16 + 0) * 16 + c.toNat / 16) * 16 + c.toNat % 16 = c.toNat := by omega
    have hlow : c.toNat < 0xd800 := by omega
    simp only [List.cons_append, List.nil_append, parseEscape, ↓reduceIte, parseHex4, hzero,
      hexValue_digitChar (show c.toNat / 16 < 16 by omega),
      hexValue_digitChar (show c.toNat % 16 < 16 by omega), Option.bind_eq_bind, Option.bind_some,
      hsum, hlow, true_or, Char.ofNat_toNat]
  · rw [isPlain] at h
    simp [h₁, h₂] at h
    omega

theorem parseString_escape (c : Char) (text : List Char) (fuel : Nat) :
    parseString (fuel + 1) (escape c ++ text) =
      (parseString fuel text).map fun p => (c :: p.1, p.2) := by
  cases hplain : isPlain c with
  | true =>
      have hescape := escape_of_isPlain hplain
      simp only [isPlain, ne_eq, Bool.and_eq_true, decide_eq_true_eq] at hplain
      obtain ⟨⟨hquote, hslash⟩, hlow⟩ := hplain
      rw [hescape, List.singleton_append, parseString, if_neg hquote, if_neg hslash,
        if_neg (Nat.not_lt.mpr hlow)]
      cases parseString fuel text <;> rfl
  | false =>
      obtain ⟨tail, htail, hparse⟩ := parseEscape_escape hplain text
      rw [htail, List.cons_append, parseString, if_neg (by decide), if_pos rfl, hparse]
      simp only [Option.bind_eq_bind, Option.bind_some]
      cases parseString fuel text <;> rfl

/-- A quoted text is read back, after its opening quote. -/
theorem parseString_quote (s : List Char) (rest : List Char) {fuel : Nat}
    (h : s.length < fuel) :
    parseString fuel (s.flatMap escape ++ '"' :: rest) = some (s, rest) := by
  induction s generalizing fuel with
  | nil =>
      cases fuel with
      | zero => exact absurd h (Nat.not_lt_zero _)
      | succ fuel => rfl
  | cons c s ih =>
      cases fuel with
      | zero => exact absurd h (Nat.not_lt_zero _)
      | succ fuel =>
          rw [List.flatMap_cons, List.append_assoc, parseString_escape,
            ih (Nat.lt_of_succ_lt_succ h)]
          rfl

/-! ## Numbers are read back -/

/-- What stands after a value: nothing, or a mark that is part of none. -/
def Ends (rest : List Char) : Prop := ∀ c ∈ rest.head?, c = ',' ∨ c = ']' ∨ c = '}'

theorem head?_toDigits (n : Nat) (h : (Nat.toDigits 10 n).head? = some '0') :
    Nat.toDigits 10 n = ['0'] := by
  induction n using Nat.strong_induction_on with
  | _ n ih =>
      by_cases hn : n < 10
      · rw [Nat.toDigits_of_lt_base hn] at h ⊢
        simpa using h
      · rw [Nat.toDigits_of_base_le (by decide) (Nat.le_of_not_lt hn),
          List.head?_append_of_ne_nil _ Nat.toDigits_ne_nil] at h
        have hzero := congrArg (Nat.ofDigitChars 10 · 0) (ih (n / 10) (by omega) h)
        simp only [Nat.ofDigitChars_ten_toDigits] at hzero
        have : n / 10 = 0 := hzero
        omega

theorem parseNumber_toDigits (n : Nat) {rest : List Char} (h : Ends rest) :
    parseNumber (Nat.toDigits 10 n ++ rest) = some (n, rest) := by
  have hdigits : ∀ c ∈ Nat.toDigits 10 n, c.isDigit = true := fun c hc =>
    Nat.isDigit_of_mem_toDigits (by decide) (by decide) hc
  have hmark : ∀ c ∈ rest.head?, c.isDigit = false ∧ ¬ (c = '.' ∨ c = 'e' ∨ c = 'E') := by
    intro c hc
    rcases h c hc with rfl | rfl | rfl <;> decide
  have htake : (Nat.toDigits 10 n ++ rest).takeWhile Char.isDigit = Nat.toDigits 10 n := by
    rw [List.takeWhile_append_of_pos hdigits]
    cases rest with
    | nil => simp
    | cons c rest => simp [(hmark c rfl).1]
  have hdrop : (Nat.toDigits 10 n ++ rest).dropWhile Char.isDigit = rest := by
    rw [List.dropWhile_append_of_pos hdigits]
    cases rest with
    | nil => rfl
    | cons c rest => simp [(hmark c rfl).1]
  have hstop : (rest.head?.any fun c => c = '.' ∨ c = 'e' ∨ c = 'E') = false := by
    cases rest with
    | nil => rfl
    | cons c rest => simpa using (hmark c rfl).2
  rw [parseNumber, htake, hdrop, if_neg, Nat.ofDigitChars_ten_toDigits]
  rintro (hnil | ⟨hhead, hne⟩ | hany)
  · exact Nat.toDigits_ne_nil hnil
  · exact hne (head?_toDigits n hhead)
  · rw [hstop] at hany
    cases hany

/-! ## Values are read back -/

/-- The text of a value begins with a mark of its own. -/
theorem head_render (j : Json) : ∃ c tail, j.render = c :: tail ∧ isBlank c = false ∧ c ≠ ']' := by
  cases j with
  | null => exact ⟨_, _, by rw [render], by decide, by decide⟩
  | bool b => cases b <;> exact ⟨_, _, by rw [render], by decide, by decide⟩
  | num n =>
      cases hdigits : Nat.toDigits 10 n with
      | nil => exact absurd hdigits Nat.toDigits_ne_nil
      | cons c tail =>
          have hc : c.isDigit = true :=
            Nat.isDigit_of_mem_toDigits (b := 10) (n := n) (by decide) (by decide)
              (hdigits ▸ List.mem_cons_self)
          refine ⟨c, tail, by rw [render, hdigits], ?_, ?_⟩
          · by_contra hblank
            simp only [isBlank, Bool.not_eq_false, Bool.or_eq_true, decide_eq_true_eq] at hblank
            rcases hblank with ((rfl | rfl) | rfl) | rfl <;> cases hc
          · rintro rfl
            cases hc
  | str s => exact ⟨_, _, by rw [render, quote], by decide, by decide⟩
  | arr items => exact ⟨_, _, by rw [render], by decide, by decide⟩
  | obj fields => exact ⟨_, _, by rw [render], by decide, by decide⟩

theorem skipBlank_cons {c : Char} (h : isBlank c = false) (text : List Char) :
    skipBlank (c :: text) = c :: text := by
  rw [skipBlank, List.dropWhile_cons_of_neg (by simp [h])]

theorem length_lt_quote (s : String) : s.toList.length + 1 < (quote s).length := by
  have hescape (c : Char) : 0 < (escape c).length := by
    rw [escape]
    split_ifs <;> exact Nat.zero_lt_succ _
  have hflat : ∀ text : List Char, text.length ≤ (text.flatMap escape).length := by
    intro text
    induction text with
    | nil => exact Nat.le_refl _
    | cons c text ih =>
        have := hescape c
        rw [List.flatMap_cons, List.length_append, List.length_cons]
        omega
  have := hflat s.toList
  rw [quote, List.length_cons, List.length_append, List.length_singleton]
  omega

theorem ends_cons {c : Char} {rest : List Char} (h : c = ',' ∨ c = ']' ∨ c = '}') :
    Ends (c :: rest) := by
  rintro d ⟨⟩
  exact h

theorem head_renderItems (item : Json) (items : List Json) :
    ∃ c tail, renderItems (item :: items) = c :: tail ∧ isBlank c = false ∧ c ≠ ']' := by
  obtain ⟨c, tail, hc, hmark⟩ := head_render item
  cases items with
  | nil => exact ⟨c, tail, by rw [renderItems, hc], hmark⟩
  | cons next items => exact ⟨c, _, by rw [renderItems, hc, List.cons_append], hmark⟩

theorem head_renderFields (field : String × Json) (fields : List (String × Json)) :
    ∃ tail, renderFields (field :: fields) = '"' :: tail := by
  obtain ⟨name, value⟩ := field
  cases fields with
  | nil => exact ⟨_, by rw [renderFields, quote, List.cons_append]⟩
  | cons next fields => exact ⟨_, by rw [renderFields, quote, List.cons_append]⟩

mutual

theorem parseValue_render : ∀ (j : Json) (rest : List Char) (fuel : Nat), Ends rest →
    j.render.length < fuel → parseValue fuel (j.render ++ rest) = some (j, rest)
  | _, _, 0, _, h => absurd h (Nat.not_lt_zero _)
  | .null, rest, fuel + 1, _, _ => by
      rw [render]
      rfl
  | .bool true, rest, fuel + 1, _, _ => by
      rw [render]
      rfl
  | .bool false, rest, fuel + 1, _, _ => by
      rw [render]
      rfl
  | .num n, rest, fuel + 1, hrest, _ => by
      obtain ⟨c, tail, hc, hblank, -⟩ := head_render (.num n)
      have hnum := parseNumber_toDigits n hrest
      have hdigit : c.isDigit = true := by
        refine Nat.isDigit_of_mem_toDigits (b := 10) (n := n) (by decide) (by decide) ?_
        rw [render] at hc
        rw [hc]
        exact List.mem_cons_self
      have hne : ∀ d, d.isDigit = false → c ≠ d := by
        rintro d hd rfl
        rw [hdigit] at hd
        cases hd
      rw [render] at hc ⊢
      rw [hc] at hnum ⊢
      rw [List.cons_append] at hnum ⊢
      rw [parseValue, skipBlank_cons hblank]
      simp only [hne 'n' rfl, hne 't' rfl, hne 'f' rfl, hne '"' rfl, hne '[' rfl, hne '{' rfl,
        ↓reduceIte, hnum, Option.map_some]
  | .str s, rest, fuel + 1, _, h => by
      have hlen := length_lt_quote s
      rw [render] at h
      rw [render, quote, List.cons_append, List.append_assoc, List.singleton_append, parseValue,
        skipBlank_cons (by decide)]
      simp only [Char.reduceEq, ↓reduceIte,
        parseString_quote s.toList rest (show s.toList.length < fuel by omega), Option.map_some,
        String.ofList_toList]
  | .arr [], rest, fuel + 1, _, _ => by
      rw [render, renderItems]
      rfl
  | .arr (item :: items), rest, fuel + 1, _, h => by
      obtain ⟨c, tail, hc, hblank, hclose⟩ := head_renderItems item items
      rw [render, List.length_cons, List.length_append, List.length_singleton] at h
      have hitems := parseItems_render (item :: items) rest fuel (List.cons_ne_nil _ _) (by omega)
      rw [render, List.cons_append, List.append_assoc, List.singleton_append, parseValue,
        skipBlank_cons (by decide)]
      simp only [Char.reduceEq, ↓reduceIte, hitems]
      rw [hc, List.cons_append, skipBlank_cons hblank]
      simp [hclose]
  | .obj [], rest, fuel + 1, _, _ => by
      rw [render, renderFields]
      rfl
  | .obj (field :: fields), rest, fuel + 1, _, h => by
      obtain ⟨tail, hc⟩ := head_renderFields field fields
      rw [render, List.length_cons, List.length_append, List.length_singleton] at h
      have hfields :=
        parseFields_render (field :: fields) rest fuel (List.cons_ne_nil _ _) (by omega)
      rw [render, List.cons_append, List.append_assoc, List.singleton_append, parseValue,
        skipBlank_cons (by decide)]
      simp only [Char.reduceEq, ↓reduceIte, hfields]
      rw [hc, List.cons_append, skipBlank_cons (by decide)]
      simp

theorem parseItems_render : ∀ (items : List Json) (rest : List Char) (fuel : Nat), items ≠ [] →
    (renderItems items).length + 1 < fuel →
    parseItems fuel (renderItems items ++ ']' :: rest) = some (items, rest)
  | _, _, 0, _, h => absurd h (Nat.not_lt_zero _)
  | [], _, _, h, _ => absurd rfl h
  | [item], rest, fuel + 1, _, h => by
      rw [renderItems] at h ⊢
      rw [parseItems, parseValue_render item (']' :: rest) fuel (ends_cons (by decide)) (by omega)]
      simp only [Option.bind_eq_bind, Option.bind_some,
        skipBlank_cons (show isBlank ']' = false by decide)]
      rfl
  | item :: next :: items, rest, fuel + 1, _, h => by
      rw [renderItems, List.length_append, List.length_cons] at h
      have hitems := parseItems_render (next :: items) rest fuel (List.cons_ne_nil _ _) (by omega)
      rw [renderItems, List.append_assoc, List.cons_append, parseItems,
        parseValue_render item _ fuel (ends_cons (by decide)) (by omega)]
      simp only [Option.bind_eq_bind, Option.bind_some,
        skipBlank_cons (show isBlank ',' = false by decide), ↓reduceIte, hitems]

theorem parseFields_render : ∀ (fields : List (String × Json)) (rest : List Char) (fuel : Nat),
    fields ≠ [] → (renderFields fields).length + 1 < fuel →
    parseFields fuel (renderFields fields ++ '}' :: rest) = some (fields, rest)
  | _, _, 0, _, h => absurd h (Nat.not_lt_zero _)
  | [], _, _, h, _ => absurd rfl h
  | [(name, value)], rest, fuel + 1, _, h => by
      have hlen := length_lt_quote name
      rw [renderFields, List.length_append, List.length_cons] at h
      have hname := parseString_quote name.toList (':' :: (value.render ++ '}' :: rest))
        (show name.toList.length < fuel by omega)
      rw [renderFields, List.append_assoc, quote, List.cons_append, List.append_assoc,
        List.singleton_append, List.cons_append, parseFields, skipBlank_cons (by decide)]
      simp only [afterWord, ↓reduceIte, Option.bind_eq_bind, Option.bind_some, hname,
        skipBlank_cons (show isBlank ':' = false by decide),
        parseValue_render value ('}' :: rest) fuel (ends_cons (by decide)) (by omega),
        skipBlank_cons (show isBlank '}' = false by decide), Char.reduceEq, String.ofList_toList]
  | (name, value) :: next :: fields, rest, fuel + 1, _, h => by
      have hlen := length_lt_quote name
      rw [renderFields, List.length_append, List.length_cons, List.length_append,
        List.length_cons] at h
      have hfields :=
        parseFields_render (next :: fields) rest fuel (List.cons_ne_nil _ _) (by omega)
      have hname := parseString_quote name.toList
        (':' :: (value.render ++ ',' :: (renderFields (next :: fields) ++ '}' :: rest)))
        (show name.toList.length < fuel by omega)
      rw [renderFields, List.append_assoc, quote, List.cons_append, List.append_assoc,
        List.singleton_append, List.cons_append, List.append_assoc, List.cons_append, parseFields,
        skipBlank_cons (by decide)]
      simp only [afterWord, ↓reduceIte, Option.bind_eq_bind, Option.bind_some, hname,
        skipBlank_cons (show isBlank ':' = false by decide),
        parseValue_render value _ fuel (ends_cons (c := ',') (by decide))
          (show value.render.length < fuel by omega),
        skipBlank_cons (show isBlank ',' = false by decide), hfields, String.ofList_toList]

end

theorem parse_render (j : Json) : parse j.render = some j := by
  have hvalue := parseValue_render j [] (j.render.length + 1) nofun (Nat.lt_succ_self _)
  rw [List.append_nil] at hvalue
  rw [parse, hvalue]
  rfl

/-- What `to_vec` writes, `from_slice` reads back. -/
theorem decode_encode (j : Json) : decode j.encode = some j := by
  have hbytes : String.fromUTF8? ⟨j.encode.toArray⟩ = some (String.ofList j.render) := by
    have hdata : (⟨j.encode.toArray⟩ : ByteArray) = (String.ofList j.render).toByteArray := by
      rw [encode, utf8, Array.toArray_toList]
    rw [hdata]
    exact dif_pos (String.ofList j.render).isValidUTF8
  rw [decode, hbytes]
  simp only [Option.bind_eq_bind, Option.bind_some, String.toList_ofList, parse_render]

/-- So a text that a value is written as needs no parsing. -/
theorem decode_eq_ite (j : Json) :
    decode = fun payload => if payload = j.encode then some j else decode payload := by
  funext payload
  split_ifs with h
  · rw [h, decode_encode]
  · rfl

end Json

end Paraegox
