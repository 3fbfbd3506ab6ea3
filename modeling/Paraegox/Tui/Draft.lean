import Paraegox.Tui.Editor

/-!
# The input editor as a pair of texts

What the editor is for: characters before the cursor and characters after it.  A `Draft`
holds no control character and fits the limit.  The editor refines it, so its byte offsets
are always between two characters.
-/

namespace Paraegox.Tui

/-- The characters before and after the cursor. -/
structure Draft where
  before : List Char
  after : List Char
  plain : ∀ c ∈ before ++ after, isControl c = false
  fits : (utf8Text (before ++ after)).length ≤ MAX_INPUT_BYTES

namespace Draft

def empty : Draft where
  before := []
  after := []
  plain := fun _ hc => absurd hc List.not_mem_nil
  fits := Nat.zero_le _

def chars (draft : Draft) : List Char := draft.before ++ draft.after

/-- Bytes that are left. -/
def room (draft : Draft) : Nat := MAX_INPUT_BYTES - (utf8Text draft.chars).length

/-- Some of the characters, split elsewhere. -/
def keep (draft : Draft) (before after : List Char)
    (h : List.Sublist (before ++ after) draft.chars) : Draft where
  before := before
  after := after
  plain := fun c hc => draft.plain c (h.subset hc)
  fits := (length_utf8Text_le h).trans draft.fits

/-- More characters before the cursor. -/
def add (draft : Draft) (text : List Char) (hplain : ∀ c ∈ text, isControl c = false)
    (hroom : (utf8Text text).length ≤ draft.room) : Draft where
  before := draft.before ++ text
  after := draft.after
  plain := by
    intro c hc
    simp only [List.append_assoc, List.mem_append] at hc
    rcases hc with hc | hc | hc
    · exact draft.plain c (List.mem_append_left _ hc)
    · exact hplain c hc
    · exact draft.plain c (List.mem_append_right _ hc)
  fits := by
    have hfits := draft.fits
    simp only [room, chars, utf8Text_append, List.length_append] at hroom hfits ⊢
    omega

section

variable (draft : Draft) (text : List Char) (hplain : ∀ c ∈ text, isControl c = false)
  (hroom : (utf8Text text).length ≤ draft.room)

@[simp] theorem before_add : (draft.add text hplain hroom).before = draft.before ++ text := rfl

@[simp] theorem after_add : (draft.add text hplain hroom).after = draft.after := rfl

end

/-! ## The calls -/

def insert (draft : Draft) (c : Char) : Bool × Draft :=
  if h : isControl c = false ∧ (utf8Text [c]).length ≤ draft.room then
    (true, draft.add [c] (fun _ hc => List.mem_singleton.mp hc ▸ h.1) h.2)
  else (false, draft)

/-- The characters of a text that an editor may hold. -/
def plainChars (text : String) : List Char :=
  text.toList.filter fun c => !isControl c

theorem plainChars_plain (text : String) : ∀ c ∈ plainChars text, isControl c = false := by
  intro c hc
  simpa using (List.mem_filter.mp hc).2

/-- Of the characters that an editor may hold, the first ones that there is room for. -/
def insertText (draft : Draft) (text : String) : Bool × Draft :=
  let chars := plainChars text
  let fitting := sliceTo chars draft.room
  (decide (fitting = chars),
    draft.add fitting
      (fun c hc => plainChars_plain text c ((sliceTo_front _ _).subset hc))
      (length_utf8Text _ ▸ utf8Len_sliceTo_le _ _))

def backspace (draft : Draft) : Draft :=
  draft.keep draft.before.dropLast draft.after
    ((List.dropLast_sublist _).append_right _)

def delete (draft : Draft) : Draft :=
  draft.keep draft.before draft.after.tail
    ((List.tail_sublist _).append_left _)

/-- The cursor among the characters. -/
def moveTo (draft : Draft) (cursor : Nat) : Draft :=
  draft.keep (draft.chars.take cursor) (draft.chars.drop cursor)
    (by rw [List.take_append_drop])

def perform (draft : Draft) : EditorOp → EditorResult × Draft
  | .insert c => ((draft.insert c).map .accepted id)
  | .insertText text => ((draft.insertText text).map .accepted id)
  | .backspace => (.unit, draft.backspace)
  | .delete => (.unit, draft.delete)
  | .moveLeft => (.unit, draft.moveTo (draft.before.length - 1))
  | .moveRight => (.unit, draft.moveTo (draft.before.length + 1))
  | .moveHome => (.unit, draft.moveTo 0)
  | .moveEnd => (.unit, draft.moveTo draft.chars.length)
  | .clear => (.unit, empty)
  | .take => (.taken (utf8Text draft.chars), empty)

/-- The editor that shows a draft. -/
def editor (draft : Draft) : InputEditor where
  text := utf8Text draft.chars
  cursor := draft.before.length

end Draft

/-! ## Offsets -/

theorem byteIndex_length (text text' : List Char) (cursor : Nat) :
    InputEditor.byteIndex ⟨utf8Text (text ++ text'), cursor⟩ text.length =
      (utf8Text text).length :=
  charIndices_getD text text'

theorem charCount_utf8Text (text : List Char) (cursor : Nat) :
    InputEditor.charCount ⟨utf8Text text, cursor⟩ = text.length :=
  length_charIndices 0 text

theorem insertAt_run (text text' : List Char) (c : Char) (cursor : Nat) :
    EStateM.run (InputEditor.insertAt (utf8Text text).length c)
        ⟨utf8Text (text ++ text'), cursor⟩ =
      .ok () ⟨utf8Text (text ++ c :: text'), cursor⟩ := by
  have hboundary := isBoundaryByte_append text text'
  simp [InputEditor.insertAt, Exec.assert, hboundary]

theorem removeRange_run (text removed text' : List Char) (cursor : Nat) :
    EStateM.run
        (InputEditor.removeRange (utf8Text text).length (utf8Text (text ++ removed)).length)
        ⟨utf8Text (text ++ removed ++ text'), cursor⟩ =
      .ok () ⟨utf8Text (text ++ text'), cursor⟩ := by
  have hstart := isBoundaryByte_append text (removed ++ text')
  have hstop := isBoundaryByte_append (text ++ removed) text'
  simp only [utf8Text_append, List.append_assoc, List.length_append] at hstart hstop
  simp [InputEditor.removeRange, Exec.assert, hstart, hstop]

/-! ## The calls refine -/

theorem editor_add (draft : Draft) (text : List Char) (hplain : ∀ c ∈ text, isControl c = false)
    (hroom : (utf8Text text).length ≤ draft.room) :
    (draft.add text hplain hroom).editor =
      ⟨utf8Text (draft.before ++ text ++ draft.after), draft.before.length + text.length⟩ := by
  rw [Draft.editor, Draft.chars, Draft.add, List.length_append]

theorem length_utf8Text_singleton (c : Char) : (utf8Text [c]).length = c.utf8Size := by
  rw [utf8Text_cons, utf8Text_nil, List.append_nil, String.length_utf8EncodeChar]

/-- There is room for a character just where `insert` finds it. -/
theorem room_iff (draft : Draft) (c : Char) :
    (utf8Text [c]).length ≤ draft.room ↔
      (utf8Text draft.chars).length + c.utf8Size ≤ MAX_INPUT_BYTES := by
  have hfits : (utf8Text draft.chars).length ≤ MAX_INPUT_BYTES := draft.fits
  rw [length_utf8Text_singleton, Draft.room]
  omega

theorem insert_run (draft : Draft) (c : Char) :
    EStateM.run (InputEditor.insert c) draft.editor =
      .ok (draft.insert c).1 (draft.insert c).2.editor := by
  have htext : draft.editor.text = utf8Text draft.chars := rfl
  by_cases h : isControl c = false ∧ (utf8Text [c]).length ≤ draft.room
  · have hgo : ¬(isControl c = true ∨
        draft.editor.text.length + c.utf8Size > MAX_INPUT_BYTES) := by
      rw [not_or, h.1, htext, Nat.not_lt, ← room_iff]
      exact ⟨Bool.false_ne_true, h.2⟩
    have hindex : draft.editor.byteIndex draft.editor.cursor = (utf8Text draft.before).length :=
      byteIndex_length draft.before draft.after draft.before.length
    have hinsert : EStateM.run (InputEditor.insertAt (utf8Text draft.before).length c)
        draft.editor = _ :=
      insertAt_run draft.before draft.after c draft.before.length
    rw [InputEditor.insert, Draft.insert, dif_pos h]
    simp [-bind_pure_comp, hgo, hindex, hinsert, editor_add]
  · have hstop : isControl c = true ∨
        draft.editor.text.length + c.utf8Size > MAX_INPUT_BYTES := by
      rw [room_iff] at h
      rw [htext]
      by_contra hnot
      rw [not_or, Bool.not_eq_true, Nat.not_lt] at hnot
      exact h hnot
    rw [InputEditor.insert, Draft.insert, dif_neg h]
    simp [hstop]

theorem insertChars_run (draft : Draft) (text : List Char)
    (hplain : ∀ c ∈ text, isControl c = false) :
    EStateM.run (InputEditor.insertChars text) draft.editor =
      .ok (decide (sliceTo text draft.room = text))
        ⟨utf8Text (draft.before ++ sliceTo text draft.room ++ draft.after),
          draft.before.length + (sliceTo text draft.room).length⟩ := by
  induction text generalizing draft with
  | nil => simp [InputEditor.insertChars, sliceTo, Draft.editor, Draft.chars]
  | cons c text ih =>
      have hc := hplain c List.mem_cons_self
      have htext : ∀ c ∈ text, isControl c = false :=
        fun c' hc' => hplain c' (List.mem_cons_of_mem _ hc')
      have hsize := length_utf8Text_singleton c
      rw [InputEditor.insertChars, sliceTo]
      by_cases hroom : c.utf8Size ≤ draft.room
      · have hsingle : ∀ c' ∈ [c], isControl c' = false :=
          fun _ hc' => List.mem_singleton.mp hc' ▸ hc
        have hinsert : draft.insert c = (true, draft.add [c] hsingle (hsize.trans_le hroom)) :=
          dif_pos ⟨hc, hsize.trans_le hroom⟩
        have hrest : (draft.add [c] hsingle (hsize.trans_le hroom)).room =
            draft.room - c.utf8Size := by
          simp [Draft.room, Draft.chars, Draft.add]
          omega
        have hgo := ih (draft.add [c] hsingle (hsize.trans_le hroom)) htext
        rw [hrest] at hgo
        simp [insert_run, hinsert, hgo, hroom]
        omega
      · have hinsert : draft.insert c = (false, draft) :=
          dif_neg fun h => hroom (hsize.symm.trans_le h.2)
        simp [insert_run, hinsert, hroom]
        simp [Draft.editor, Draft.chars]

theorem insertText_run (draft : Draft) (text : String) :
    EStateM.run (InputEditor.insertText text) draft.editor =
      .ok (draft.insertText text).1 (draft.insertText text).2.editor := by
  rw [Draft.insertText, editor_add]
  exact insertChars_run draft _ (Draft.plainChars_plain text)

theorem backspace_run (draft : Draft) :
    EStateM.run InputEditor.backspace draft.editor = .ok () draft.backspace.editor := by
  obtain ⟨before, after, hplain, hfits⟩ := draft
  rcases List.eq_nil_or_concat' before with rfl | ⟨before, c, rfl⟩
  · simp [InputEditor.backspace, Draft.editor, Draft.backspace, Draft.keep, Draft.chars]
  · have hremove := removeRange_run before [c] after (before ++ [c]).length
    have hstart := byteIndex_length before (c :: after) (before ++ [c]).length
    have hstop := byteIndex_length (before ++ [c]) after (before ++ [c]).length
    simp at hremove hstart hstop
    simp [InputEditor.backspace, Draft.editor, Draft.backspace, Draft.keep, Draft.chars, hremove,
      hstart, hstop]

theorem delete_run (draft : Draft) :
    EStateM.run InputEditor.delete draft.editor = .ok () draft.delete.editor := by
  obtain ⟨before, after, hplain, hfits⟩ := draft
  have hcount := charCount_utf8Text (before ++ after) before.length
  cases after with
  | nil =>
      simp at hcount
      simp [InputEditor.delete, Draft.editor, Draft.delete, Draft.keep, Draft.chars, hcount]
  | cons c after =>
      have hremove := removeRange_run before [c] after before.length
      have hstart := byteIndex_length before (c :: after) before.length
      have hstop := byteIndex_length (before ++ [c]) after before.length
      simp at hcount hremove hstart hstop
      simp [InputEditor.delete, Draft.editor, Draft.delete, Draft.keep, Draft.chars, hcount,
        hremove, hstart, hstop]

/-- A move of the cursor is a split of the same characters. -/
theorem editor_moveTo (draft : Draft) (cursor : Nat) :
    (draft.moveTo cursor).editor =
      ⟨utf8Text draft.chars, min cursor draft.chars.length⟩ := by
  simp [Draft.editor, Draft.moveTo, Draft.keep, Draft.chars]

/-- A call of the editor edits the draft it shows. -/
theorem run_editor (draft : Draft) (op : EditorOp) :
    EStateM.run op.run draft.editor = .ok (draft.perform op).1 (draft.perform op).2.editor := by
  have hcount : draft.editor.charCount = draft.chars.length :=
    charCount_utf8Text draft.chars draft.before.length
  have hlen : draft.before.length ≤ draft.chars.length := by
    rw [Draft.chars, List.length_append]
    exact Nat.le_add_right _ _
  have htext : draft.editor.text = utf8Text draft.chars := rfl
  have hcursor : draft.editor.cursor = draft.before.length := rfl
  cases op with
  | insert c => simp [-bind_pure_comp, EditorOp.run, insert_run, Draft.perform]
  | insertText text => simp [-bind_pure_comp, EditorOp.run, insertText_run, Draft.perform]
  | backspace => simp [-bind_pure_comp, EditorOp.run, backspace_run, Draft.perform]
  | delete => simp [-bind_pure_comp, EditorOp.run, delete_run, Draft.perform]
  | moveLeft =>
      simp [-bind_pure_comp, EditorOp.run, InputEditor.moveLeft, Draft.perform, editor_moveTo,
        htext, hcursor]
      omega
  | moveRight =>
      simp [-bind_pure_comp, EditorOp.run, InputEditor.moveRight, Draft.perform, editor_moveTo,
        htext, hcursor, hcount]
  | moveHome =>
      simp [-bind_pure_comp, EditorOp.run, InputEditor.moveHome, Draft.perform, editor_moveTo,
        htext]
  | moveEnd =>
      simp [-bind_pure_comp, EditorOp.run, InputEditor.moveEnd, Draft.perform, editor_moveTo,
        htext, hcount]
  | clear =>
      simp [-bind_pure_comp, EditorOp.run, InputEditor.clear, Draft.perform]
      rfl
  | take =>
      simp [-bind_pure_comp, EditorOp.run, InputEditor.take, Draft.perform, htext]
      rfl

/-- `prefix` reads the characters before the cursor. -/
theorem prefixText_run (draft : Draft) :
    EStateM.run InputEditor.prefixText draft.editor =
      .ok (utf8Text draft.before) draft.editor := by
  have hindex : draft.editor.byteIndex draft.editor.cursor = (utf8Text draft.before).length :=
    byteIndex_length draft.before draft.after draft.before.length
  have htext : draft.editor.text = utf8Text draft.before ++ utf8Text draft.after :=
    utf8Text_append _ _
  have hboundary := isBoundaryByte_append draft.before draft.after
  simp [-bind_pure_comp, InputEditor.prefixText, Exec.assert, hindex, htext, hboundary]

/-! ## Runs refine -/

/-- Calls one after the other, with what each returned. -/
def Draft.performAll (draft : Draft) : List EditorOp → List EditorResult × Draft
  | [] => ([], draft)
  | op :: ops =>
      let (result, draft) := draft.perform op
      let (results, draft) := draft.performAll ops
      (result :: results, draft)

theorem runEditor_editor (draft : Draft) (ops : List EditorOp) :
    EStateM.run (runEditor ops) draft.editor =
      .ok (draft.performAll ops).1 (draft.performAll ops).2.editor := by
  induction ops generalizing draft with
  | nil => simp [runEditor, Draft.performAll]
  | cons op ops ih =>
      have hrest := ih (draft.perform op).2
      rw [runEditor] at hrest ⊢
      simp [-bind_pure_comp, run_editor, hrest, Draft.performAll]

/-! ## What the calls accept -/

/-- The longest front of a text that takes no more than `room` bytes. -/
structure LongestFitting (text : List Char) (room : Nat) (fitting : List Char) : Prop where
  front : fitting <+: text
  fits : (utf8Text fitting).length ≤ room
  longest : ∀ front, front <+: text → (utf8Text front).length ≤ room → front <+: fitting

theorem longestFitting_sliceTo (text : List Char) (room : Nat) :
    LongestFitting text room (sliceTo text room) where
  front := sliceTo_front text room
  fits := length_utf8Text _ ▸ utf8Len_sliceTo_le text room
  longest := fun front hfront hroom => front_sliceTo hfront (length_utf8Text front ▸ hroom)

/-- `insert` refuses control characters and what does not fit, and then changes nothing. -/
theorem Draft.insert_spec (draft : Draft) (c : Char) :
    if isControl c ∨ (utf8Text draft.chars).length + c.utf8Size > MAX_INPUT_BYTES then
      draft.insert c = (false, draft)
    else ∃ draft', draft.insert c = (true, draft') ∧
      draft'.before = draft.before ++ [c] ∧ draft'.after = draft.after := by
  split_ifs with h
  · refine dif_neg ?_
    intro hgo
    rw [room_iff] at hgo
    rcases h with hcontrol | hlong
    · exact Bool.false_ne_true (hgo.1.symm.trans hcontrol)
    · exact Nat.not_lt.mpr hgo.2 hlong
  · rw [not_or, Bool.not_eq_true, Nat.not_lt, ← room_iff] at h
    exact ⟨_, dif_pos h, rfl, rfl⟩

/-- `insert_text` takes the longest front that fits of what it may take. -/
theorem Draft.insertText_spec (draft : Draft) (text : String) :
    ∃ fitting draft', LongestFitting (plainChars text) draft.room fitting ∧
      draft.insertText text = (decide (fitting = plainChars text), draft') ∧
      draft'.before = draft.before ++ fitting ∧ draft'.after = draft.after :=
  ⟨_, _, longestFitting_sliceTo _ _, rfl, rfl, rfl⟩

/-- Whatever the calls, the editor shows the draft they edit, without a panic. -/
theorem editor_refines :
    (∀ ops, ∃ results draft editor,
      Draft.empty.performAll ops = (results, draft) ∧
      EStateM.run (runEditor ops) {} = .ok results editor ∧
      editor.text = utf8Text (draft.before ++ draft.after) ∧
      editor.cursor = draft.before.length ∧
      EStateM.run InputEditor.prefixText editor = .ok (utf8Text draft.before) editor ∧
      editor.text.length ≤ MAX_INPUT_BYTES ∧
      ∀ c ∈ draft.before ++ draft.after, isControl c = false) ∧
    (∀ (draft : Draft) (c : Char),
      if isControl c ∨ (utf8Text draft.chars).length + c.utf8Size > MAX_INPUT_BYTES then
        draft.insert c = (false, draft)
      else ∃ draft', draft.insert c = (true, draft') ∧
        draft'.before = draft.before ++ [c] ∧ draft'.after = draft.after) ∧
    (∀ (draft : Draft) (text : String), ∃ fitting draft',
      LongestFitting (Draft.plainChars text) draft.room fitting ∧
      draft.insertText text = (decide (fitting = Draft.plainChars text), draft') ∧
      draft'.before = draft.before ++ fitting ∧ draft'.after = draft.after) := by
  refine ⟨fun ops => ?_, Draft.insert_spec, Draft.insertText_spec⟩
  have hrun : EStateM.run (runEditor ops) {} = _ := runEditor_editor Draft.empty ops
  exact ⟨_, _, _, rfl, hrun, rfl, rfl, prefixText_run _, Draft.fits _, Draft.plain _⟩

end Paraegox.Tui
