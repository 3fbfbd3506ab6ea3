import Paraegox.Lib.Exec
import Paraegox.Text.CharBoundary
import Paraegox.Text.Unicode

/-!
# The input editor of the terminal chat

`InputEditor`: a text and a cursor that counts characters.  Every edit is at a byte offset
found by scanning the text, and an edit off a character boundary panics.
-/

namespace Paraegox.Tui

def MAX_INPUT_BYTES : Nat := 4 * 1024

/-- `InputEditor`, with the bytes of its text. -/
structure InputEditor where
  text : List UInt8 := []
  cursor : Nat := 0
deriving DecidableEq

/-- A block that edits.  It returns no error. -/
abbrev Edit := Exec InputEditor Empty

namespace InputEditor

/-- `chars().count()`. -/
def charCount (editor : InputEditor) : Nat := (charIndices 0 editor.text).length

def byteIndex (editor : InputEditor) (characterIndex : Nat) : Nat :=
  (charIndices 0 editor.text)[characterIndex]?.getD editor.text.length

/-- `String::insert` on the text. -/
def insertAt (index : Nat) (character : Char) : Edit Unit := do
  let editor ← get
  Exec.assert (isBoundaryByte editor.text index) "assertion failed: self.is_char_boundary(idx)"
  set { editor with
    text := editor.text.take index ++ String.utf8EncodeChar character ++ editor.text.drop index }

/-- `String::replace_range` on the text, with nothing. -/
def removeRange (start stop : Nat) : Edit Unit := do
  let editor ← get
  Exec.assert (isBoundaryByte editor.text start) "assertion failed: self.is_char_boundary(n)"
  Exec.assert (isBoundaryByte editor.text stop) "assertion failed: self.is_char_boundary(n)"
  Exec.assert (start ≤ stop) "slice index starts after it ends"
  set { editor with text := editor.text.take start ++ editor.text.drop stop }

def insert (character : Char) : Edit Bool := do
  let editor ← get
  if isControl character ∨ editor.text.length + character.utf8Size > MAX_INPUT_BYTES then
    return false
  insertAt (editor.byteIndex editor.cursor) character
  modify fun editor => { editor with cursor := editor.cursor + 1 }
  return true

/-- The loop of `insert_text`. -/
def insertChars : List Char → Edit Bool
  | [] => return true
  | character :: characters => do
      if ← insert character then insertChars characters
      else return false

def insertText (text : String) : Edit Bool :=
  insertChars (text.toList.filter fun character => !isControl character)

def backspace : Edit Unit := do
  let editor ← get
  if editor.cursor = 0 then
    return
  let start := editor.byteIndex (editor.cursor - 1)
  let stop := editor.byteIndex editor.cursor
  removeRange start stop
  modify fun editor => { editor with cursor := editor.cursor - 1 }

def delete : Edit Unit := do
  let editor ← get
  if editor.cursor = editor.charCount then
    return
  let start := editor.byteIndex editor.cursor
  let stop := editor.byteIndex (editor.cursor + 1)
  removeRange start stop

def moveLeft : Edit Unit :=
  modify fun editor => { editor with cursor := editor.cursor - 1 }

def moveRight : Edit Unit :=
  modify fun editor => { editor with cursor := min (editor.cursor + 1) editor.charCount }

def moveHome : Edit Unit :=
  modify fun editor => { editor with cursor := 0 }

def moveEnd : Edit Unit :=
  modify fun editor => { editor with cursor := editor.charCount }

def clear : Edit Unit :=
  set ({ } : InputEditor)

def take : Edit (List UInt8) := do
  let editor ← get
  set ({ } : InputEditor)
  return editor.text

/-- `&self.text[..self.byte_index(self.cursor)]`. -/
def prefixText : Edit (List UInt8) := do
  let editor ← get
  let index := editor.byteIndex editor.cursor
  Exec.assert (isBoundaryByte editor.text index) "slice off a character boundary"
  return editor.text.take index

end InputEditor

/-! ## Runs -/

/-- A call of the editor that changes it. -/
inductive EditorOp where
  | insert (character : Char)
  | insertText (text : String)
  | backspace
  | delete
  | moveLeft
  | moveRight
  | moveHome
  | moveEnd
  | clear
  | take
deriving DecidableEq

/-- What a call returns. -/
inductive EditorResult where
  | unit
  | accepted (complete : Bool)
  | taken (text : List UInt8)
deriving DecidableEq

def EditorOp.run : EditorOp → Edit EditorResult
  | .insert character => do return .accepted (← InputEditor.insert character)
  | .insertText text => do return .accepted (← InputEditor.insertText text)
  | .backspace => do
      InputEditor.backspace
      return .unit
  | .delete => do
      InputEditor.delete
      return .unit
  | .moveLeft => do
      InputEditor.moveLeft
      return .unit
  | .moveRight => do
      InputEditor.moveRight
      return .unit
  | .moveHome => do
      InputEditor.moveHome
      return .unit
  | .moveEnd => do
      InputEditor.moveEnd
      return .unit
  | .clear => do
      InputEditor.clear
      return .unit
  | .take => do return .taken (← InputEditor.take)

/-- Calls one after the other, with what each returned. -/
def runEditor (ops : List EditorOp) : Edit (List EditorResult) :=
  ops.mapM EditorOp.run

end Paraegox.Tui
