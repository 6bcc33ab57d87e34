import BraceArith.Text.Blank

/-!
# Cursors

A cursor is a place in a text from which all blanks have been taken out: what has not been read
yet, and how many characters have.  It only moves forward, one character at a time, and stops at
the end.
-/

namespace BraceArith

/-- A place in a text without blanks. -/
structure Cursor where
  /-- Number of characters that have been read. -/
  position : Nat
  /-- The characters that have not been read yet. -/
  rest : List Char
deriving DecidableEq, Repr

namespace Cursor

/-- The start of `text`, its blanks taken out. -/
def ofText (text : String) : Cursor :=
  ⟨0, Text.strip text⟩

/-- The next character, which stays unread. -/
def peek (c : Cursor) : Option Char :=
  c.rest.head?

/-- Whether everything has been read. -/
def atEnd (c : Cursor) : Bool :=
  c.rest.isEmpty

/-- What has not been read, as a text. -/
def remaining (c : Cursor) : String :=
  String.ofList c.rest

/-- Reads the next character.  At the end there is none, and the cursor stays. -/
def advance (c : Cursor) : Option Char × Cursor :=
  match c.rest with
  | [] => (none, c)
  | next :: rest => (some next, ⟨c.position + 1, rest⟩)

/-- Reads the next character if it is `expected`, and says whether it was. -/
def accept (c : Cursor) (expected : Char) : Bool × Cursor :=
  if c.peek = some expected then (true, c.advance.2) else (false, c)

/-- A cursor is at the end exactly when no character follows. -/
theorem atEnd_iff_peek (c : Cursor) : c.atEnd = true ↔ c.peek = none := by
  simp [atEnd, peek, List.isEmpty_iff]

end Cursor

end BraceArith
