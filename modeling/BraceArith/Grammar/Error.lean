/-!
# Syntax errors

A text that starts with no expression is refused with a cause and a position.  Positions count the
characters of the text without its blanks, from zero; columns, which people are shown, count from
one.
-/

namespace BraceArith

/-- Why a text was refused. -/
inductive SyntaxError.Cause where
  /-- An operand had to follow, but this character, or the end of the text, did. -/
  | expectedDigit (found : Option Char)
  /-- A group was open, but something else than an operator or its closing brace followed. -/
  | expectedClosingBrace
  /-- A cause in words of its own. -/
  | described (text : String)
deriving DecidableEq, Repr

/-- A refusal of a text. -/
structure SyntaxError where
  /-- Why the text was refused. -/
  cause : SyntaxError.Cause
  /-- Where: the number of characters, blanks left out, before the offending one. -/
  position : Nat
deriving DecidableEq, Repr

namespace SyntaxError

/-- How a message names a character, or the end of the text. -/
def describeFound : Option Char → String
  | some c => "'" ++ c.toString ++ "'"
  | none => "end of input"

/-- The cause in words. -/
def message (e : SyntaxError) : String :=
  match e.cause with
  | .expectedDigit found => "expected digit, found " ++ describeFound found
  | .expectedClosingBrace => "expected closing brace '\x7d'"
  | .described text => text

/-- The position as people count it. -/
def column (e : SyntaxError) : Nat :=
  e.position + 1

/-- The cause in words, with its column. -/
def display (e : SyntaxError) : String :=
  "Syntax error at column " ++ toString e.column ++ ": " ++ e.message

/-- The same error, `offset` characters further on. -/
def shift (e : SyntaxError) (offset : Nat) : SyntaxError :=
  { e with position := e.position + offset }

end SyntaxError

end BraceArith
