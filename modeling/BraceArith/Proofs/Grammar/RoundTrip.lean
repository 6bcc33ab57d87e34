import BraceArith.Proofs.Grammar.Language

/-!
# Rendering and reading are inverse

A tree is rendered with parentheses around every operation.  With braces in their place the text
is a term of the grammar that stands for the tree, whatever the tree's shape, provided that its
numbers are digits; and trees with other numbers are never read.  So the trees that can be read
are exactly those with digits for numbers, and each of them is read from its own rendering.

## Main definitions

- `Expr.HasDigitLiterals`: every number in the tree is a digit
- `Text.braced`: braces in place of parentheses

## Main statements

- `isTerm_braced_render`: a rendering, braced, is a term for its tree
- `IsExpression.hasDigitLiterals`: an expression stands for a tree of digits
-/

namespace BraceArith

/-- Every number in the tree is one of the digits from zero to nine. -/
def Expr.HasDigitLiterals : Expr → Prop
  | .literal value => ∃ d < 10, value = Float.ofNat d
  | .binary _ left right => left.HasDigitLiterals ∧ right.HasDigitLiterals

namespace Text

/-- The brace for a parenthesis; other characters stay. -/
def braceFor (c : Char) : Char :=
  if c = '(' then '{' else if c = ')' then '}' else c

/-- The text with braces in place of parentheses. -/
def braced (text : String) : String :=
  text.map braceFor

theorem strip_braced_append (a b : String) :
    strip (braced (a ++ b)) = strip (braced a) ++ strip (braced b) := by
  simp [strip, braced]

end Text

namespace Grammar

open Text (strip braced strip_braced_append)

/-! ## §1 A rendering is a term -/

theorem chars_ofNat_digit : ∀ d < 10, Decimal.chars (Float.ofNat d) = [Nat.digitChar d] := by
  decide +kernel

theorem isTerm_digitChar {d : Nat} (h : d < 10) :
    IsTerm [Nat.digitChar d] (.literal (Float.ofNat d)) := by
  have hdigit : ∀ d < 10, (Nat.digitChar d).isDigit = true := by decide
  have hvalue : ∀ d < 10, (Nat.digitChar d).toNat - '0'.toNat = d := by decide
  have hterm := IsTerm.digit (hdigit d h)
  rwa [digitValue, hvalue d h] at hterm

theorem strip_braced_digit {d : Nat} (h : d < 10) :
    strip (braced (Decimal.text (Float.ofNat d))) = [Nat.digitChar d] := by
  have hkept : ∀ d < 10, strip (braced (String.ofList [Nat.digitChar d])) = [Nat.digitChar d] := by
    decide +kernel
  rw [Decimal.text, chars_ofNat_digit d h]
  exact hkept d h

theorem strip_braced_render_binary (op : Operator) (left right : Expr) :
    strip (braced (Expr.binary op left right).render) =
      '{' :: (strip (braced left.render) ++ op.symbol :: strip (braced right.render) ++ ['}']) := by
  have hopening : strip (braced "(") = ['{'] := by decide +kernel
  have hspace : strip (braced " ") = [] := by decide +kernel
  have hclosing : strip (braced ")") = ['}'] := by decide +kernel
  have hsymbol : strip (braced op.symbol.toString) = [op.symbol] := by
    cases op <;> decide +kernel
  rw [Expr.render]
  simp only [strip_braced_append, hopening, hspace, hclosing, hsymbol, List.append_nil,
    List.cons_append, List.nil_append, List.append_assoc]

/-- Two terms around an operator are an expression.  An additive operator makes them one factor,
    another one a chain of two. -/
theorem IsTerm.expression {u v : List Char} {left right : Expr} (hleft : IsTerm u left)
    (op : Operator) (hright : IsTerm v right) :
    IsExpression (u ++ op.symbol :: v) (.binary op left right) := by
  cases hop : op.isAdditive with
  | true => exact .factor (.chain (.term hleft) hop hright)
  | false => exact .chain (.factor (.term hleft)) hop (.term hright)

/-- A rendering with braces for parentheses is a term that stands for its tree. -/
theorem isTerm_braced_render {t : Expr} (h : t.HasDigitLiterals) :
    IsTerm (strip (braced t.render)) t := by
  induction t with
  | literal value =>
    obtain ⟨d, hd, rfl⟩ := h
    rw [Expr.render, strip_braced_digit hd]
    exact isTerm_digitChar hd
  | binary op left right ihleft ihright =>
    obtain ⟨hleft, hright⟩ := h
    rw [strip_braced_render_binary]
    -- The braces around the operation hide from outside how its operator binds.
    exact .group ((ihleft hleft).expression op (ihright hright))

/-! ## §2 Expressions stand for trees of digits -/

theorem toNat_of_isDigit {c : Char} (h : c.isDigit = true) : 48 ≤ c.toNat ∧ c.toNat ≤ 57 := by
  simp only [Char.isDigit, Bool.and_eq_true, decide_eq_true_eq, UInt32.le_iff_toNat_le] at h
  exact h

theorem hasDigitLiterals_digitValue {c : Char} (h : c.isDigit = true) :
    (digitValue c).HasDigitLiterals := by
  have hbounds := toNat_of_isDigit h
  have hzero : '0'.toNat = 48 := rfl
  exact ⟨c.toNat - '0'.toNat, by omega, rfl⟩

mutual

theorem IsExpression.hasDigitLiterals {u : List Char} {t : Expr} :
    IsExpression u t → t.HasDigitLiterals
  | .factor hfactor => hfactor.hasDigitLiterals
  | .chain hleft _ hright => ⟨hleft.hasDigitLiterals, hright.hasDigitLiterals⟩

theorem IsFactor.hasDigitLiterals {u : List Char} {t : Expr} :
    IsFactor u t → t.HasDigitLiterals
  | .term hterm => hterm.hasDigitLiterals
  | .chain hleft _ hright => ⟨hleft.hasDigitLiterals, hright.hasDigitLiterals⟩

theorem IsTerm.hasDigitLiterals {u : List Char} {t : Expr} : IsTerm u t → t.HasDigitLiterals
  | .digit hdigit => hasDigitLiterals_digitValue hdigit
  | .group hinner => hinner.hasDigitLiterals

end

theorem hasDigitLiterals_of_parse {line : String} {t : Expr} (h : parse line = .ok t) :
    t.HasDigitLiterals := by
  obtain ⟨u, haccepted⟩ := exists_accepted_of_readExpression h
  exact haccepted.expression.hasDigitLiterals

/-! ## §3 The round trip -/

/-- A rendering with braces is accepted, and nothing is left. -/
theorem accepted_braced_render {t : Expr} (h : t.HasDigitLiterals) :
    Accepted (braced t.render) (strip (braced t.render)) t "" where
  strip_eq := by simp
  expression := .factor (.term (isTerm_braced_render h))
  no_operator := by simp

/-- Rendering and reading are inverse.  A tree of digits is read from its own rendering, with
    braces for parentheses, and nothing is left; the trees that can be read are exactly those; so
    any tree that was read is read again from its rendering. -/
theorem readExpression_braced_render (t : Expr) :
    (t.HasDigitLiterals →
      (Cursor.ofText (braced t.render)).readExpression.result = .ok t ∧
        (Cursor.ofText (braced t.render)).readExpression.cursor.remaining = "") ∧
    ((∃ line, parse line = .ok t) ↔ t.HasDigitLiterals) ∧
    (∀ line, parse line = .ok t →
      parse (braced t.render) = .ok t ∧
        (Cursor.ofText (braced t.render)).readExpression.cursor.remaining = "") := by
  have hread : t.HasDigitLiterals →
      (Cursor.ofText (braced t.render)).readExpression.result = .ok t ∧
        (Cursor.ofText (braced t.render)).readExpression.cursor.remaining = "" := by
    intro h
    rw [(accepted_braced_render h).readExpression_eq]
    exact ⟨rfl, rfl⟩
  refine ⟨hread, ⟨?_, ?_⟩, ?_⟩
  · rintro ⟨line, hline⟩
    exact hasDigitLiterals_of_parse hline
  · intro h
    exact ⟨braced t.render, (hread h).1⟩
  · intro line hline
    exact hread (hasDigitLiterals_of_parse hline)

end Grammar

end BraceArith
