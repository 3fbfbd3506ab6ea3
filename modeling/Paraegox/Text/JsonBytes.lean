import Mathlib.Data.String.Basic
import Paraegox.Kernel.Uuid
import Paraegox.Text.Json
import Paraegox.Text.Unicode
import Paraegox.Text.Utf8

/-!
# The bytes of compact JSON

`serde_json::to_vec` and how long its result is.  A frame is an object whose names
and tags are plain text, so its length is a constant plus the lengths of the texts
in it.  A text is at most twice as long when it is quoted, as long as its only
controls are those with a two-character escape.
-/

namespace Paraegox

namespace Json

/-- `serde_json::to_vec`. -/
def encode (j : Json) : List UInt8 := utf8 (String.ofList j.render)

/-- The bytes of a text. -/
def textLen (text : List Char) : Nat := (text.map Char.utf8Size).sum

/-- The bytes of a quoted text. -/
def quoteLen (s : String) : Nat := textLen (quote s)

/-- The bytes between the braces of an object. -/
def fieldsLen (fields : List (String × Json)) : Nat := textLen (renderFields fields)

theorem textLen_cons (c : Char) (text : List Char) :
    textLen (c :: text) = c.utf8Size + textLen text :=
  List.sum_cons

theorem textLen_append (text text' : List Char) :
    textLen (text ++ text') = textLen text + textLen text' := by
  rw [textLen, List.map_append, List.sum_append]
  rfl

theorem textLen_toList (s : String) : textLen s.toList = s.utf8ByteSize := by
  have hlist : ∀ text : List Char, textLen text = String.utf8Len text := by
    intro text
    induction text with
    | nil => rfl
    | cons c text ih => rw [textLen_cons, String.utf8Len_cons, ih, Nat.add_comm]
  rw [hlist, ← String.utf8ByteSize_ofList, String.ofList_toList]

theorem length_encode (j : Json) : j.encode.length = j.encodedLen := by
  rw [encode, length_utf8, ← textLen_toList, String.toList_ofList]
  rfl

/-! ## Quoted text -/

/-- A character that is not escaped. -/
def isPlain (c : Char) : Bool := c ≠ '"' && c ≠ '\\' && 0x20 ≤ c.toNat

theorem escape_of_isPlain {c : Char} (h : isPlain c = true) : escape c = [c] := by
  simp only [isPlain, ne_eq, Bool.and_eq_true, decide_eq_true_eq] at h
  obtain ⟨⟨hquote, hslash⟩, hlow⟩ := h
  rw [escape, if_neg hquote, if_neg hslash]
  iterate 6 rw [if_neg (by omega)]

theorem quote_of_isPlain {s : String} (h : s.toList.all isPlain = true) :
    quote s = '"' :: (s.toList ++ ['"']) := by
  have hflat : ∀ text : List Char, text.all isPlain = true → text.flatMap escape = text := by
    intro text htext
    induction text with
    | nil => rfl
    | cons c text ih =>
        rw [List.all_cons, Bool.and_eq_true] at htext
        rw [List.flatMap_cons, escape_of_isPlain htext.1, ih htext.2, List.singleton_append]
  rw [quote, hflat _ h]

theorem quoteLen_of_isPlain {s : String} (h : s.toList.all isPlain = true) :
    quoteLen s = s.utf8ByteSize + 2 := by
  have hmark : '"'.utf8Size = 1 := rfl
  have hnil : textLen [] = 0 := rfl
  rw [quoteLen, quote_of_isPlain h, textLen_cons, textLen_append, textLen_cons, textLen_toList]
  omega

/-- Quoting at most doubles what has no controls but the tab and the line feed. -/
theorem quoteLen_le {s : String}
    (h : ∀ c ∈ s.toList, isControl c = true → c = '\n' ∨ c = '\t') :
    quoteLen s ≤ 2 * s.utf8ByteSize + 2 := by
  have hescape : ∀ c, (isControl c = true → c = '\n' ∨ c = '\t') →
      textLen (escape c) ≤ 2 * c.utf8Size := by
    intro c hc
    have hpos := c.utf8Size_pos
    by_cases hplain : isPlain c = true
    · have hself : textLen [c] = c.utf8Size := Nat.add_zero _
      rw [escape_of_isPlain hplain]
      omega
    · simp only [isPlain, ne_eq, Bool.and_eq_true, decide_eq_true_eq, not_and,
        Nat.not_le] at hplain
      by_cases hquote : c = '"'
      · subst hquote
        decide
      by_cases hslash : c = '\\'
      · subst hslash
        decide
      have hlow : c.toNat < 0x20 := hplain ⟨hquote, hslash⟩
      rcases hc (by simp [isControl, hlow]) with rfl | rfl <;> decide
  have hflat : ∀ text : List Char, (∀ c ∈ text, isControl c = true → c = '\n' ∨ c = '\t') →
      textLen (text.flatMap escape) ≤ 2 * textLen text := by
    intro text htext
    induction text with
    | nil => exact Nat.le_refl 0
    | cons c text ih =>
        have hhead := hescape c (htext c List.mem_cons_self)
        have htail := ih fun c' hc' => htext c' (List.mem_cons_of_mem _ hc')
        rw [List.flatMap_cons, textLen_append, textLen_cons]
        omega
  have hbody := hflat s.toList h
  have hmark : textLen ['"'] = 1 := rfl
  have hsize : '"'.utf8Size = 1 := rfl
  rw [quoteLen, quote, textLen_cons, textLen_append]
  rw [textLen_toList] at hbody
  omega

/-- The text of an identifier is as long for one as for another. -/
theorem quoteLen_hyphenated (u : Uuid) : quoteLen u.hyphenated = 38 := by
  have hchars : ∀ c ∈ u.hyphenated.toList, isPlain c = true ∧ c.utf8Size = 1 := by
    intro c hc
    rw [Uuid.hyphenated, String.toList_ofList] at hc
    have hall : (['-', '0', '1', '2', '3', '4', '5', '6', '7', '8', '9', 'a', 'b', 'c', 'd', 'e',
        'f'].all fun c => isPlain c && c.utf8Size == 1) = true := by
      decide
    have hmem : c ∈ ['-', '0', '1', '2', '3', '4', '5', '6', '7', '8', '9', 'a', 'b', 'c', 'd',
        'e', 'f'] := by
      rcases Uuid.mem_hyphenate hc with rfl | hdigit
      · exact List.mem_cons_self
      · exact List.mem_cons_of_mem _ (Uuid.mem_digits hdigit)
    simpa using List.all_eq_true.mp hall c hmem
  have hlen : u.hyphenated.utf8ByteSize = u.hyphenated.toList.length := by
    rw [← textLen_toList, textLen, List.map_congr_left fun c hc => (hchars c hc).2,
      List.map_const', List.sum_replicate_nat, Nat.mul_one]
  have hcount : u.hyphenated.toList.length = 36 := by
    have hdigits := u.length_digits
    simp only [Uuid.hyphenated, String.toList_ofList, Uuid.hyphenate, List.length_append,
      List.length_cons, List.length_take, List.length_drop]
    omega
  rw [quoteLen_of_isPlain (List.all_eq_true.mpr fun c hc => (hchars c hc).1), hlen, hcount]

/-! ## Numbers -/

/-- A number is as long as its digits. -/
theorem encodedLen_num_le {n k : Nat} (hk : 0 < k) (h : n < 10 ^ k) :
    (Json.num n).encodedLen ≤ k := by
  have hsize : ∀ c ∈ Nat.toDigits 10 n, c.utf8Size = 1 := by
    intro c hc
    have hdigit : c.isDigit = true := Nat.isDigit_of_mem_toDigits (by decide) (by decide) hc
    rw [Char.utf8Size_eq_one_iff]
    simp only [Char.isDigit, Bool.and_eq_true, decide_eq_true_eq] at hdigit
    exact UInt32.le_trans hdigit.2 (by decide)
  have hlen : (Json.num n).encodedLen = (Nat.toDigits 10 n).length := by
    rw [encodedLen, render, List.map_congr_left hsize, List.map_const', List.sum_replicate_nat,
      Nat.mul_one]
  rw [hlen]
  exact (Nat.length_toDigits_le_iff (by decide) hk).mpr h

/-! ## Objects -/

theorem encodedLen_str (s : String) : (Json.str s).encodedLen = quoteLen s := rfl

/-- What an object takes besides its values. -/
def namesLen (names : List String) : Nat := (names.map fun name => quoteLen name + 2).sum + 1

theorem fieldsLen_cons (field : String × Json) (fields : List (String × Json)) :
    fieldsLen (field :: fields) + 2 =
      namesLen (field.1 :: fields.map Prod.fst) +
        (field.2.encodedLen + (fields.map fun f => f.2.encodedLen).sum) := by
  have hcolon : ':'.utf8Size = 1 := rfl
  have hcomma : ','.utf8Size = 1 := rfl
  induction fields generalizing field with
  | nil =>
      obtain ⟨name, value⟩ := field
      have hvalue : textLen value.render = value.encodedLen := rfl
      rw [fieldsLen, renderFields, textLen_append, textLen_cons]
      simp only [namesLen, List.map_cons, List.map_nil, List.sum_cons, List.sum_nil, quoteLen]
      omega
  | cons next fields ih =>
      obtain ⟨name, value⟩ := field
      have hvalue : textLen value.render = value.encodedLen := rfl
      have hrest := ih next
      rw [fieldsLen] at hrest
      rw [fieldsLen, renderFields, textLen_append, textLen_cons, textLen_append, textLen_cons]
      simp only [namesLen, List.map_cons, List.sum_cons, quoteLen] at hrest ⊢
      omega

/-- The length of an object is a constant for its names plus the lengths of its values. -/
theorem encodedLen_obj (field : String × Json) (fields : List (String × Json)) :
    (Json.obj (field :: fields)).encodedLen =
      namesLen (field.1 :: fields.map Prod.fst) +
        (field.2.encodedLen + (fields.map fun f => f.2.encodedLen).sum) := by
  have hsize : '{'.utf8Size = 1 := rfl
  have hclose : textLen ['}'] = 1 := rfl
  have hrender : (Json.obj (field :: fields)).encodedLen =
      textLen ('{' :: (renderFields (field :: fields) ++ ['}'])) := rfl
  rw [← fieldsLen_cons, hrender, textLen_cons, textLen_append, fieldsLen]
  omega

/-! ## Arrays -/

theorem textLen_renderItems_le {items : List Json} {n : Nat}
    (h : ∀ item ∈ items, item.encodedLen ≤ n) :
    textLen (renderItems items) ≤ items.length * (n + 1) := by
  have hcomma : ','.utf8Size = 1 := rfl
  induction items with
  | nil => exact Nat.zero_le _
  | cons item items ih =>
      have hitem : textLen item.render ≤ n := h item List.mem_cons_self
      have hitems := ih fun next hnext => h next (List.mem_cons_of_mem _ hnext)
      rw [List.length_cons, Nat.succ_mul]
      cases items with
      | nil =>
          rw [renderItems]
          omega
      | cons next items =>
          rw [renderItems, textLen_append, textLen_cons]
          omega

/-- An array of items that are no longer than `n`. -/
theorem encodedLen_arr_le {items : List Json} {n : Nat}
    (h : ∀ item ∈ items, item.encodedLen ≤ n) :
    (Json.arr items).encodedLen ≤ items.length * (n + 1) + 2 := by
  have hitems := textLen_renderItems_le h
  have hopen : '['.utf8Size = 1 := rfl
  have hclose : textLen [']'] = 1 := rfl
  have hrender : (Json.arr items).encodedLen =
      textLen ('[' :: (renderItems items ++ [']'])) := rfl
  rw [hrender, textLen_cons, textLen_append]
  omega

/-! ## JSON is one line -/

theorem le_of_all {text : List Char} (h : (text.all fun d => 0x20 ≤ d.toNat) = true) :
    ∀ d ∈ text, 0x20 ≤ d.toNat :=
  fun d hd => of_decide_eq_true (List.all_eq_true.mp h d hd)

/-- A character below the blank is escaped with characters above it. -/
theorem le_of_mem_escape (c : Char) : ∀ d ∈ escape c, 0x20 ≤ d.toNat := by
  have hdigit : ∀ n, n < 16 → 0x20 ≤ (Nat.digitChar n).toNat := by decide
  rw [escape]
  iterate 7
    split
    · exact le_of_all (by decide)
  split
  · next hlow =>
    intro d hd
    have hfront := @le_of_all ['\\', 'u', '0', '0'] (by decide)
    rcases List.mem_append.mp (show d ∈ ['\\', 'u', '0', '0'] ++
        [Nat.digitChar (c.toNat / 16), Nat.digitChar (c.toNat % 16)] from hd) with hd | hd
    · exact hfront d hd
    · simp only [List.mem_cons, List.not_mem_nil, or_false] at hd
      rcases hd with rfl | rfl
      · exact hdigit _ (by omega)
      · exact hdigit _ (by omega)
  · intro d hd
    rw [List.mem_singleton.mp hd]
    omega

theorem le_of_mem_quote (s : String) : ∀ d ∈ quote s, 0x20 ≤ d.toNat := by
  have hmark : 0x20 ≤ '"'.toNat := by decide
  refine List.forall_mem_cons.mpr ⟨hmark, List.forall_mem_append.mpr
    ⟨fun d hd => ?_, List.forall_mem_singleton.mpr hmark⟩⟩
  obtain ⟨c, -, hd⟩ := List.mem_flatMap.mp hd
  exact le_of_mem_escape c d hd

theorem le_of_mem_toDigits (n : Nat) : ∀ d ∈ Nat.toDigits 10 n, 0x20 ≤ d.toNat := by
  intro d hd
  have hdigit := Nat.isDigit_of_mem_toDigits (by decide) (by decide) hd
  simp only [Char.isDigit, ge_iff_le, Bool.and_eq_true, decide_eq_true_eq] at hdigit
  exact Nat.le_trans (by decide) (UInt32.le_iff_toNat_le.mp hdigit.1)

mutual

theorem le_of_mem_render : ∀ (j : Json), ∀ d ∈ j.render, 0x20 ≤ d.toNat
  | .null => by
      rw [render]
      exact le_of_all (by decide)
  | .bool true => by
      rw [render]
      exact le_of_all (by decide)
  | .bool false => by
      rw [render]
      exact le_of_all (by decide)
  | .num n => by
      rw [render]
      exact le_of_mem_toDigits n
  | .str s => by
      rw [render]
      exact le_of_mem_quote s
  | .arr items => by
      rw [render]
      exact List.forall_mem_cons.mpr ⟨by decide, List.forall_mem_append.mpr
        ⟨le_of_mem_renderItems items, List.forall_mem_singleton.mpr (by decide)⟩⟩
  | .obj fields => by
      rw [render]
      exact List.forall_mem_cons.mpr ⟨by decide, List.forall_mem_append.mpr
        ⟨le_of_mem_renderFields fields, List.forall_mem_singleton.mpr (by decide)⟩⟩

theorem le_of_mem_renderItems : ∀ (items : List Json), ∀ d ∈ renderItems items, 0x20 ≤ d.toNat
  | [] => by
      rw [renderItems]
      exact fun d hd => absurd hd List.not_mem_nil
  | [item] => by
      rw [renderItems]
      exact le_of_mem_render item
  | item :: next :: items => by
      rw [renderItems]
      exact List.forall_mem_append.mpr ⟨le_of_mem_render item,
        List.forall_mem_cons.mpr ⟨by decide, le_of_mem_renderItems (next :: items)⟩⟩

theorem le_of_mem_renderFields :
    ∀ (fields : List (String × Json)), ∀ d ∈ renderFields fields, 0x20 ≤ d.toNat
  | [] => by
      rw [renderFields]
      exact fun d hd => absurd hd List.not_mem_nil
  | [(name, value)] => by
      rw [renderFields]
      exact List.forall_mem_append.mpr ⟨le_of_mem_quote name,
        List.forall_mem_cons.mpr ⟨by decide, le_of_mem_render value⟩⟩
  | (name, value) :: next :: fields => by
      rw [renderFields]
      exact List.forall_mem_append.mpr ⟨le_of_mem_quote name,
        List.forall_mem_cons.mpr ⟨by decide, List.forall_mem_append.mpr ⟨le_of_mem_render value,
          List.forall_mem_cons.mpr ⟨by decide, le_of_mem_renderFields (next :: fields)⟩⟩⟩⟩

end

/-- Compact JSON has no byte below a blank, so no newline in particular. -/
theorem le_of_mem_encode (j : Json) : ∀ b ∈ j.encode, 0x20 ≤ b.toNat :=
  le_of_mem_utf8 (le_of_mem_render j)

end Json

end Paraegox
