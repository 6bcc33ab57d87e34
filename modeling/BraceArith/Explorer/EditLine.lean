import BraceArith.Text.Offset

/-!
# The line being edited

A line of text with a cursor in front of one of its characters or at the end.  The cursor is
counted in characters; a change in the text is made at the byte where the character at the cursor
starts.  Such a change has no answer at a byte where no character starts, and then the line stays
as it is.
-/

namespace BraceArith.Explorer

/-- A line and the place where it is edited. -/
structure EditLine where
  /-- The line's text. -/
  text : String := ""
  /-- Number of characters before the cursor. -/
  cursor : Nat := 0
deriving DecidableEq, Repr

namespace EditLine

/-- The characters of the line. -/
def chars (l : EditLine) : List Char :=
  l.text.toList

/-- The line with the given text, the cursor at its end. -/
def ofText (text : String) : EditLine :=
  ⟨text, text.toList.length⟩

/-! ## §1 Changes -/

/-- Puts `c` in front of the cursor. -/
def insert? (l : EditLine) (c : Char) : Option EditLine :=
  (Text.insertAt? l.text (Text.byteOffset l.text l.cursor) c).map fun text =>
    ⟨text, l.cursor + 1⟩

/-- Takes out the character under the cursor, if there is one. -/
def delete? (l : EditLine) : Option EditLine :=
  if l.cursor < l.chars.length then
    (Text.removeAt? l.text (Text.byteOffset l.text l.cursor)).map fun text => ⟨text, l.cursor⟩
  else some l

/-- Takes out the character before the cursor, if there is one. -/
def backspace? (l : EditLine) : Option EditLine :=
  if l.cursor = 0 then some l
  else
    (Text.removeAt? l.text (Text.byteOffset l.text (l.cursor - 1))).map fun text =>
      ⟨text, l.cursor - 1⟩

/-- The line with `c` in front of the cursor. -/
def insert (l : EditLine) (c : Char) : EditLine :=
  (l.insert? c).getD l

/-- The line without the character under the cursor. -/
def delete (l : EditLine) : EditLine :=
  l.delete?.getD l

/-- The line without the character before the cursor. -/
def backspace (l : EditLine) : EditLine :=
  l.backspace?.getD l

/-! ## §2 Moves -/

/-- One character back. -/
def left (l : EditLine) : EditLine :=
  { l with cursor := l.cursor - 1 }

/-- One character on, at most to the end. -/
def right (l : EditLine) : EditLine :=
  { l with cursor := min (l.cursor + 1) l.chars.length }

/-- To the start. -/
def home (l : EditLine) : EditLine :=
  { l with cursor := 0 }

/-- To the end. -/
def toEnd (l : EditLine) : EditLine :=
  { l with cursor := l.chars.length }

end EditLine

end BraceArith.Explorer
