import BraceArith.Grammar.Reader
import BraceArith.Graph.Statement

/-!
# Reports

A report is everything there is to say about one line: the tree it starts with, the tree's text,
value and graph description, and what was left over.  A line that starts with no expression gives
a syntax error instead.
-/

namespace BraceArith

/-- All that comes of a line that starts with an expression. -/
structure Report where
  /-- The line as it was given, blanks included. -/
  input : String
  /-- The expression it starts with. -/
  tree : Expr
  /-- The expression with every operation in parentheses. -/
  rendering : String
  /-- The expression's value. -/
  value : Float
  /-- The expression's graph description. -/
  dot : String
  /-- What follows the expression, blanks taken out, if anything does. -/
  trailing : Option String

/-- The report on a tree that was found in `input` before `trailing`. -/
def Report.ofTree (input : String) (tree : Expr) (trailing : Option String) : Report where
  input := input
  tree := tree
  rendering := tree.render
  value := tree.evaluate
  dot := Graph.document tree
  trailing := trailing

/-- What is left unread at a cursor, if anything is. -/
def Cursor.trailing (c : Cursor) : Option String :=
  if c.atEnd then none else some c.remaining

/-- What comes of a line. -/
abbrev Outcome := Except SyntaxError Report

/-- Whether the line started with an expression. -/
def Outcome.isOk : Outcome → Bool
  | .ok _ => true
  | .error _ => false

/-- The same outcome for the line `input`. -/
def Outcome.withInput (input : String) : Outcome → Outcome
  | .ok report => .ok { report with input := input }
  | .error e => .error e

/-- Reads, evaluates and exports a line. -/
def analyze (input : String) : Outcome :=
  let reading := (Cursor.ofText input).readExpression
  match reading.result with
  | .ok tree => .ok (.ofTree input tree reading.cursor.trailing)
  | .error e => .error e

theorem analyze_of_ok {input : String} {tree : Expr}
    (h : (Cursor.ofText input).readExpression.result = .ok tree) :
    analyze input =
      .ok (.ofTree input tree (Cursor.ofText input).readExpression.cursor.trailing) := by
  simp only [analyze, h]

theorem analyze_of_error {input : String} {e : SyntaxError}
    (h : (Cursor.ofText input).readExpression.result = .error e) : analyze input = .error e := by
  simp only [analyze, h]

end BraceArith
