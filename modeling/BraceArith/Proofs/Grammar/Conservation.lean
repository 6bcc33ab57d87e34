import BraceArith.Proofs.Grammar.Resume
import BraceArith.Proofs.Grammar.RoundTrip

/-!
# Reading keeps every digit and every operator

Braces only say how a text groups, and so do the parentheses of a rendering.  With both taken
away, the tree that was read is written with the very characters that were read, in the same order.
It has one node for each of them, since a digit becomes a number and an operator an operation.

That braces match is a fact about runs: the groups that are open at any moment are the opening
braces less the closing ones.

## Main definitions

- `Text.withoutBraces`, `Text.withoutParentheses`: texts without their grouping
- `isDigitOrOperator`: the characters that a tree is made of

## Main statements

- `Reads.count_braces`: the open groups count the braces
- `IsExpression.withoutBraces_eq`: an expression and its tree are written with the same characters
- `length_withoutParentheses_render`: a tree of digits has one character for each node
-/

namespace BraceArith

namespace Text

/-- The characters that are no braces. -/
def withoutBraces (u : List Char) : List Char :=
  u.filter fun c => c ∉ ['{', '}']

/-- The characters of a text that are neither parentheses nor spaces. -/
def withoutParentheses (text : String) : List Char :=
  text.toList.filter fun c => c ∉ ['(', ')', ' ']

theorem withoutBraces_append (u v : List Char) :
    withoutBraces (u ++ v) = withoutBraces u ++ withoutBraces v := by
  simp [withoutBraces]

theorem withoutParentheses_append (a b : String) :
    withoutParentheses (a ++ b) = withoutParentheses a ++ withoutParentheses b := by
  simp [withoutParentheses]

end Text

namespace Grammar

open Text (withoutBraces withoutParentheses withoutBraces_append withoutParentheses_append)

/-! ## §1 Braces along a run -/

theorem ne_closing_of_isDigit {c : Char} (h : c.isDigit = true) : c ≠ '}' := by
  rintro rfl
  exact absurd h (by decide)

theorem Step.count_braces {m m' : Memory} {c : Char} (h : Step m c m') :
    [c].count '{' + m.outer.length = [c].count '}' + m'.outer.length := by
  cases h with
  | opening outer pending => simp [Nat.add_comm]
  | digit outer pending hdigit =>
    simp [ne_opening_of_isDigit hdigit, ne_closing_of_isDigit hdigit]
  | operator outer product value op => cases op <;> simp [Operator.symbol]
  | closing outer pending product value => simp [Nat.add_comm]

/-- The groups that a run leaves open are its opening braces less its closing ones. -/
theorem Reads.count_braces {m m' : Memory} {u : List Char} (h : Reads m u m') :
    u.count '{' + m.outer.length = u.count '}' + m'.outer.length := by
  induction h with
  | nil _ => rfl
  | @cons _ _ _ c u hstep _ ih =>
    have hc := hstep.count_braces
    rw [← List.singleton_append, List.count_append, List.count_append]
    omega

theorem IsExpression.count_braces {u : List Char} {t : Expr} (h : IsExpression u t) :
    u.count '{' = u.count '}' ∧ ∀ v, v <+: u → v.count '}' ≤ v.count '{' := by
  obtain ⟨product, value, -, hreads⟩ := isExpression_iff_reads.mp h
  refine ⟨hreads.count_braces, ?_⟩
  rintro v ⟨w, rfl⟩
  -- The run comes by the end of `v`, and some number of groups is open there.
  obtain ⟨m, hv, -⟩ := hreads.split
  have hcount : v.count '{' = v.count '}' + m.outer.length := hv.count_braces
  omega

/-! ## §2 Digits and operators -/

/-- Whether the character is a digit or an operator. -/
def isDigitOrOperator (c : Char) : Bool :=
  c.isDigit || (Operator.ofChar? c).isSome

theorem Step.isDigitOrOperator_eq {m m' : Memory} {c : Char} (h : Step m c m') :
    isDigitOrOperator c = decide (c ∉ ['{', '}']) := by
  cases h with
  | opening outer pending => decide
  | digit outer pending hdigit =>
    simp [isDigitOrOperator, hdigit, ne_opening_of_isDigit hdigit, ne_closing_of_isDigit hdigit]
  | operator outer product value op => cases op <;> decide
  | closing outer pending product value => decide

theorem Reads.withoutBraces_eq {m m' : Memory} {u : List Char} (h : Reads m u m') :
    withoutBraces u = u.filter isDigitOrOperator := by
  induction h with
  | nil _ => rfl
  | cons hstep _ ih =>
    unfold withoutBraces at ih ⊢
    rw [List.filter_cons, List.filter_cons, ih, hstep.isDigitOrOperator_eq]

/-! ## §3 The characters of a tree -/

theorem withoutParentheses_render_binary (op : Operator) (left right : Expr) :
    withoutParentheses (Expr.binary op left right).render =
      withoutParentheses left.render ++ op.symbol :: withoutParentheses right.render := by
  have hopening : withoutParentheses "(" = [] := by decide +kernel
  have hspace : withoutParentheses " " = [] := by decide +kernel
  have hclosing : withoutParentheses ")" = [] := by decide +kernel
  have hsymbol : withoutParentheses op.symbol.toString = [op.symbol] := by
    cases op <;> decide +kernel
  rw [Expr.render]
  simp only [withoutParentheses_append, hopening, hspace, hclosing, hsymbol, List.nil_append,
    List.append_nil, List.append_assoc, List.singleton_append]

theorem withoutParentheses_render_digit {d : Nat} (h : d < 10) :
    withoutParentheses (Expr.literal (Float.ofNat d)).render = [Nat.digitChar d] := by
  have hkept : ∀ d < 10, withoutParentheses (String.ofList [Nat.digitChar d]) =
      [Nat.digitChar d] := by decide +kernel
  rw [Expr.render, Decimal.text, chars_ofNat_digit d h]
  exact hkept d h

/-- A tree of digits has one character for each node. -/
theorem length_withoutParentheses_render {t : Expr} (h : t.HasDigitLiterals) :
    (withoutParentheses t.render).length = t.nodeCount := by
  induction t with
  | literal value =>
    obtain ⟨d, hd, rfl⟩ := h
    rw [withoutParentheses_render_digit hd]
    rfl
  | binary op left right ihleft ihright =>
    rw [withoutParentheses_render_binary, List.length_append, List.length_cons, ihleft h.1,
      ihright h.2, Expr.nodeCount]
    omega

theorem withoutParentheses_digitValue {c : Char} (h : c.isDigit = true) :
    withoutParentheses (digitValue c).render = [c] := by
  obtain ⟨hzero, hnine⟩ := toNat_of_isDigit h
  have hdigits : ∀ n < 58, 48 ≤ n → Nat.digitChar (n - 48) = Char.ofNat n := by decide
  have hchar : Nat.digitChar (c.toNat - 48) = c := by
    rw [hdigits c.toNat (by omega) hzero, Char.ofNat_toNat]
  calc withoutParentheses (digitValue c).render
      = [Nat.digitChar (c.toNat - 48)] :=
        withoutParentheses_render_digit (d := c.toNat - 48) (by omega)
    _ = [c] := by rw [hchar]

theorem withoutBraces_chain (u v : List Char) (op : Operator) :
    withoutBraces (u ++ op.symbol :: v) = withoutBraces u ++ op.symbol :: withoutBraces v := by
  have hsymbol : withoutBraces [op.symbol] = [op.symbol] := by
    cases op <;> decide
  rw [← List.singleton_append, withoutBraces_append, withoutBraces_append, hsymbol,
    List.singleton_append]

mutual

/-- An expression and its tree are written with the same characters. -/
theorem IsExpression.withoutBraces_eq {u : List Char} {t : Expr} :
    IsExpression u t → withoutBraces u = withoutParentheses t.render
  | .factor hfactor => hfactor.withoutBraces_eq
  | .chain hleft _ hright => by
    rw [withoutBraces_chain, withoutParentheses_render_binary, hleft.withoutBraces_eq,
      hright.withoutBraces_eq]

theorem IsFactor.withoutBraces_eq {u : List Char} {t : Expr} :
    IsFactor u t → withoutBraces u = withoutParentheses t.render
  | .term hterm => hterm.withoutBraces_eq
  | .chain hleft _ hright => by
    rw [withoutBraces_chain, withoutParentheses_render_binary, hleft.withoutBraces_eq,
      hright.withoutBraces_eq]

theorem IsTerm.withoutBraces_eq {u : List Char} {t : Expr} :
    IsTerm u t → withoutBraces u = withoutParentheses t.render
  | @IsTerm.digit c hdigit => by
    rw [withoutParentheses_digitValue hdigit]
    simp [withoutBraces, ne_opening_of_isDigit hdigit, ne_closing_of_isDigit hdigit]
  | .group hinner => by
    -- The group's own braces go, and the tree is that of its inside.
    rw [← hinner.withoutBraces_eq]
    simp [withoutBraces]

end

/-! ## §4 What was read, in the tree -/

theorem isExpression_taken {line : String} {t : Expr} (h : parse line = .ok t) :
    IsExpression (Cursor.ofText line).taken t := by
  obtain ⟨u, haccepted⟩ := exists_accepted_of_readExpression h
  have hrest : Text.strip line =
      (Cursor.ofText line).taken ++ (Cursor.ofText line).readExpression.cursor.rest :=
    (Cursor.passes_taken (Cursor.ofText line)).rest_eq
  have hu : u = (Cursor.ofText line).taken := by
    have hboth := haccepted.strip_eq.symm.trans hrest
    rw [Cursor.remaining, String.toList_ofList] at hboth
    exact List.append_cancel_right hboth
  rw [← hu]
  exact haccepted.expression

/-- Reading keeps every digit and every operator, in order.  Let `u` be what is read of a line that
    is read as `t`, that is, the stripped line without the rest.  The rendering of `t` without
    parentheses and spaces is `u` without braces.  Hence `t` has as many nodes as `u` has digits
    and operators; and `u` has as many opening as closing braces, and no beginning of it has more
    closing ones. -/
theorem parse_keeps_digits_and_operators (line : String) (t : Expr) (h : parse line = .ok t) :
    let u := (Cursor.ofText line).taken
    Text.strip line = u ++ (Cursor.ofText line).readExpression.cursor.remaining.toList ∧
    withoutParentheses t.render = withoutBraces u ∧
    t.nodeCount = u.countP isDigitOrOperator ∧
    u.count '{' = u.count '}' ∧
    ∀ v, v <+: u → v.count '}' ≤ v.count '{' := by
  intro u
  have hexpression : IsExpression u t := isExpression_taken h
  have hkept : withoutParentheses t.render = withoutBraces u :=
    hexpression.withoutBraces_eq.symm
  refine ⟨?_, hkept, ?_, hexpression.count_braces⟩
  · rw [Cursor.remaining, String.toList_ofList]
    exact (Cursor.passes_taken (Cursor.ofText line)).rest_eq
  · obtain ⟨product, value, -, hreads⟩ := isExpression_iff_reads.mp hexpression
    calc t.nodeCount = (withoutParentheses t.render).length :=
          (length_withoutParentheses_render hexpression.hasDigitLiterals).symm
      _ = (u.filter isDigitOrOperator).length := by rw [hkept, hreads.withoutBraces_eq]
      _ = u.countP isDigitOrOperator := List.countP_eq_length_filter.symm

/-- A line with groups in groups, blanks, and something left over. -/
theorem parse_keeps_digits_and_operators_nested :
    let line := "7 - \x7b8+\x7b\x7b1 - 2\x7d\x7d*3\x7d / 4\x7d*5"
    ∃ t, parse line = .ok t ∧
      (Cursor.ofText line).taken = "7-\x7b8+\x7b\x7b1-2\x7d\x7d*3\x7d/4".toList ∧
      withoutParentheses t.render = "7-8+1-2*3/4".toList ∧ t.nodeCount = 11 := by
  intro line
  have htaken : (Cursor.ofText line).taken =
      "7-\x7b8+\x7b\x7b1-2\x7d\x7d*3\x7d/4".toList := by decide +kernel
  have hok : (parse line).isOk = true := by decide +kernel
  cases h : parse line with
  | error e =>
    rw [h] at hok
    cases hok
  | ok t =>
    obtain ⟨-, hkept, hcount, -⟩ := parse_keeps_digits_and_operators line t h
    refine ⟨t, rfl, htaken, ?_, ?_⟩
    · rw [hkept, htaken]
      decide
    · rw [hcount, htaken]
      decide

end Grammar

end BraceArith
