import BraceArith.Grammar.Reader

/-!
# The grammar as a relation

The grammar's productions as inductive relations between a text and the tree it stands for.  They
say nothing about how a text is read: chains of operators are given by their last operator, which
makes them group to the left, and braces leave no trace in the tree.
-/

namespace BraceArith.Grammar

mutual

/-- The text is an expression that stands for the tree. -/
inductive IsExpression : List Char → Expr → Prop where
  /-- A factor is an expression. -/
  | factor {u : List Char} {t : Expr} : IsFactor u t → IsExpression u t
  /-- An expression times or divided by a factor is an expression. -/
  | chain {u v : List Char} {l r : Expr} {op : Operator} :
      IsExpression u l → op.isAdditive = false → IsFactor v r →
      IsExpression (u ++ op.symbol :: v) (.binary op l r)

/-- The text is a factor that stands for the tree. -/
inductive IsFactor : List Char → Expr → Prop where
  /-- A term is a factor. -/
  | term {u : List Char} {t : Expr} : IsTerm u t → IsFactor u t
  /-- A factor plus or minus a term is a factor. -/
  | chain {u v : List Char} {l r : Expr} {op : Operator} :
      IsFactor u l → op.isAdditive = true → IsTerm v r →
      IsFactor (u ++ op.symbol :: v) (.binary op l r)

/-- The text is a term that stands for the tree. -/
inductive IsTerm : List Char → Expr → Prop where
  /-- A digit is a term. -/
  | digit {c : Char} : c.isDigit = true → IsTerm [c] (digitValue c)
  /-- An expression in braces is a term. -/
  | group {u : List Char} {t : Expr} : IsExpression u t → IsTerm ('{' :: (u ++ ['}'])) t

end

end BraceArith.Grammar
