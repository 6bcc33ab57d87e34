import BraceArith.Decimal.Positional

/-!
# Expression trees

An expression is a number or one of the four arithmetic operators applied to two expressions.
The module holds the trees, their measures, their value and their fully parenthesised text.

## Main definitions

- `Operator`: addition, subtraction, multiplication, division
- `Expr`: the trees
- `Expr.nodeCount`, `Expr.depth`, `Expr.label`: size, height and the name of the root
- `Expr.evaluate`: the value, in double precision
- `Expr.render`: the text with a pair of parentheses around every operator's operands
-/

namespace BraceArith

/-! ## §1 Operators -/

/-- The binary operators. -/
inductive Operator where
  /-- Addition. -/
  | add
  /-- Subtraction. -/
  | sub
  /-- Multiplication. -/
  | mul
  /-- Division. -/
  | div
deriving DecidableEq, Repr

namespace Operator

/-- The character an operator is written as. -/
def symbol : Operator → Char
  | add => '+'
  | sub => '-'
  | mul => '*'
  | div => '/'

/-- The operator that `c` is written for, if there is one. -/
def ofChar? (c : Char) : Option Operator :=
  if c = '+' then some add
  else if c = '-' then some sub
  else if c = '*' then some mul
  else if c = '/' then some div
  else none

/-- Whether the operator is addition or subtraction, the two that bind tighter. -/
def isAdditive : Operator → Bool
  | add | sub => true
  | mul | div => false

/-- The operator's result in double precision.  Dividing by zero is no error: it gives an
    infinity or no number. -/
def apply : Operator → Float → Float → Float
  | add, x, y => x + y
  | sub, x, y => x - y
  | mul, x, y => x * y
  | div, x, y => x / y

/-- Reading a symbol gives the operator back. -/
@[simp] theorem ofChar?_symbol (op : Operator) : ofChar? op.symbol = some op := by
  cases op <;> decide

/-- Only its own symbol reads as an operator. -/
theorem ofChar?_eq_some_iff {c : Char} {op : Operator} :
    ofChar? c = some op ↔ c = op.symbol := by
  constructor
  · intro h
    unfold ofChar? at h
    split at h
    · cases h; assumption
    split at h
    · cases h; assumption
    split at h
    · cases h; assumption
    split at h
    · cases h; assumption
    · cases h
  · rintro rfl
    exact ofChar?_symbol op

end Operator

/-! ## §2 Trees -/

/-- An expression tree.  Two trees compare as their numbers do, so that a tree holding no number
    (NaN) differs from itself and the two zeros are alike. -/
inductive Expr where
  /-- A number. -/
  | literal (value : Float)
  /-- An operator between a left and a right operand. -/
  | binary (op : Operator) (left right : Expr)
deriving BEq

namespace Expr

/-- Number of nodes, leaves included. -/
def nodeCount : Expr → Nat
  | literal _ => 1
  | binary _ left right => 1 + left.nodeCount + right.nodeCount

/-- Height; a number alone has height one. -/
def depth : Expr → Nat
  | literal _ => 1
  | binary _ left right => 1 + max left.depth right.depth

/-- What a view of the tree shows for its root: the number or the operator's symbol. -/
def label : Expr → String
  | literal value => Decimal.text value
  | binary op _ _ => op.symbol.toString

/-- The value, the left operand computed before the right one. -/
def evaluate : Expr → Float
  | literal value => value
  | binary op left right => op.apply left.evaluate right.evaluate

/-- The text with every operation in parentheses and a space on both sides of its symbol. -/
def render : Expr → String
  | literal value => Decimal.text value
  | binary op left right =>
    "(" ++ left.render ++ " " ++ op.symbol.toString ++ " " ++ right.render ++ ")"

/-- A tree has at least one node. -/
theorem nodeCount_pos (t : Expr) : 0 < t.nodeCount := by
  cases t <;> simp only [nodeCount] <;> omega

/-- A tree is at least one level high. -/
theorem depth_pos (t : Expr) : 0 < t.depth := by
  cases t <;> simp only [depth] <;> omega

end Expr

end BraceArith
