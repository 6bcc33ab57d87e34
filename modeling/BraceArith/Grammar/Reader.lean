import BraceArith.Expr.Basic
import BraceArith.Grammar.Cursor
import BraceArith.Grammar.Error

/-!
# Reading expressions

Expressions are digits joined by operators, with braces for grouping:

```text
expression := factor (('*' | '/') factor)*
factor     := term (('+' | '-') term)*
term       := '{' expression '}' | digit
```

Addition and subtraction bind tighter than multiplication and division, and operators of one kind
group to the left.

The reader goes through the text once, character by character, and keeps the operands that still
wait for their right-hand side, one record for each open group.  It stops at the first character
that cannot go on; outside all groups that is no error, and what follows stays unread.

## Main definitions

- `Pending`, `Stage`: what the reader has to remember
- `read`: the reader itself
- `Cursor.readExpression`: reading from a cursor
- `parse`: reading a text
-/

namespace BraceArith.Grammar

/-! ## §1 What the reader remembers -/

/-- A left operand that waits for its operator's right operand, if there is one. -/
abbrev Waiting := Option (Expr × Operator)

/-- The waiting operand joined with the operand that follows it. -/
def join : Waiting → Expr → Expr
  | none, operand => operand
  | some (left, op), operand => .binary op left operand

/-- What waits in a group when an operand is about to be read. -/
structure Pending where
  /-- The left operand of a multiplication or division. -/
  product : Waiting := none
  /-- The left operand of an addition or subtraction. -/
  sum : Waiting := none

/-- What may come next. -/
inductive Stage where
  /-- An operand: a digit or an opening brace. -/
  | operand (pending : Pending)
  /-- An operator or the end of the group.  `value` is everything since the last multiplication
      or division, and `product` is what waits for it. -/
  | operator (product : Waiting) (value : Expr)

/-- The stage after an operand has been read where `pending` waited. -/
def Pending.complete (pending : Pending) (operand : Expr) : Stage :=
  .operator pending.product (join pending.sum operand)

/-- The stage after the operator `op` has been read: an additive one takes the value as its left
    operand, another one takes the whole product. -/
def afterOperator (product : Waiting) (value : Expr) (op : Operator) : Stage :=
  if op.isAdditive then .operand ⟨product, some (value, op)⟩
  else .operand ⟨some (join product value, op), none⟩

/-- The number that the digit `c` stands for. -/
def digitValue (c : Char) : Expr :=
  .literal (Float.ofNat (c.toNat - '0'.toNat))

/-! ## §2 The reader -/

/-- What came of reading, and where it stopped. -/
structure Reading where
  /-- The tree, or why there is none. -/
  result : Except SyntaxError Expr
  /-- The first place that was not read. -/
  cursor : Cursor

/-- Reads on from `stage`, with the groups of `outer` open around the current one, innermost
    first.  A character that is no operand has been read when it is reported; one that closes no
    group has not. -/
def read (outer : List Pending) (position : Nat) : Stage → List Char → Reading
  -- An operand has to follow, but the text is over.
  | .operand _, [] => ⟨.error ⟨.expectedDigit none, position⟩, ⟨position, []⟩⟩
  | .operand pending, c :: rest =>
    if c = '{' then read (pending :: outer) (position + 1) (.operand {}) rest
    else if c.isDigit then read outer (position + 1) (pending.complete (digitValue c)) rest
    else ⟨.error ⟨.expectedDigit (some c), position⟩, ⟨position + 1, rest⟩⟩
  -- The text is over after an operand: well and good, unless a group is still open.
  | .operator product value, [] =>
    match outer with
    | [] => ⟨.ok (join product value), ⟨position, []⟩⟩
    | _ :: _ => ⟨.error ⟨.expectedClosingBrace, position⟩, ⟨position, []⟩⟩
  | .operator product value, c :: rest =>
    match Operator.ofChar? c, outer with
    | some op, _ => read outer (position + 1) (afterOperator product value op) rest
    -- Outside all groups the expression is complete, whatever follows.
    | none, [] => ⟨.ok (join product value), ⟨position, c :: rest⟩⟩
    | none, pending :: outer =>
      if c = '}' then read outer (position + 1) (pending.complete (join product value)) rest
      else ⟨.error ⟨.expectedClosingBrace, position⟩, ⟨position, c :: rest⟩⟩

end Grammar

/-- Reads one expression from the cursor on. -/
def Cursor.readExpression (c : Cursor) : Grammar.Reading :=
  Grammar.read [] c.position (.operand {}) c.rest

/-- The expression that `text` starts with. -/
def parse (text : String) : Except SyntaxError Expr :=
  (Cursor.ofText text).readExpression.result

end BraceArith
