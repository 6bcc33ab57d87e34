import BraceArith.Proofs.Grammar.Language
import Mathlib.Order.Bounds.Basic

/-!
# Where reading stops

The reader goes on exactly as long as what it has read can still become an expression.  Two facts
carry this.  Whatever was read can be completed, by an operand where one has to come and by a
closing brace for every open group.  And a text that can be completed is the beginning of some
expression's run, so that the reader, whose runs are determined by the text, gets through it too.

Hence the place where reading stops is the end of the longest beginning of the text that can be
continued, and an error is reported there and nowhere else.

## Main definitions

- `Viable`: a text is the beginning of an expression
- `endsOperand`: a text ends with a digit or a closing brace
- `refusal`: the message that a text gets when it cannot go on at a place

## Main statements

- `viable_iff_reads`: the reader gets through exactly the texts that can be continued
- `isGreatest_viable`: a run ends at the longest beginning that can be continued
- `Reads.refused`: the error at the end of a run
-/

namespace BraceArith.Grammar

/-- The text is the beginning of an expression. -/
def Viable (u : List Char) : Prop :=
  ∃ v t, IsExpression (u ++ v) t

/-! ## §1 What was read can be continued -/

theorem StageText.exists_expression {stage : Stage} {u : List Char} (h : StageText stage u) :
    ∃ v t, IsExpression (u ++ v) t := by
  cases h with
  | operand hpending =>
    -- Any digit will do.
    have hzero : ('0' : Char).isDigit = true := by decide
    exact ⟨['0'], _, (hpending.complete (.digit hzero)).expression⟩
  | @operator product value _ _ hproduct hvalue =>
    refine ⟨[], join product value, ?_⟩
    rw [List.append_nil]
    exact hproduct.expression hvalue

/-- An expression in the innermost group becomes one outside all groups: every group is closed,
    and is a term of the group around it. -/
theorem OuterText.exists_expression {outer : List Pending} {u v : List Char} {t : Expr}
    (houter : OuterText outer u) (h : IsExpression v t) :
    ∃ w t', IsExpression (u ++ (v ++ w)) t' := by
  induction houter generalizing v t with
  | nil =>
    refine ⟨[], t, ?_⟩
    rw [List.nil_append, List.append_nil]
    exact h
  | cons _ hpending ih =>
    -- Closing the group gives an expression in the group around it.
    have hgroup := (hpending.complete (.group h)).expression
    obtain ⟨w, t', ht'⟩ := ih hgroup
    refine ⟨'}' :: w, t', ?_⟩
    simpa only [List.append_assoc, List.cons_append, List.nil_append] using ht'

theorem MemoryText.viable {m : Memory} {u : List Char} (h : MemoryText m u) : Viable u := by
  cases h with
  | mk houter hstage =>
    obtain ⟨v, t, ht⟩ := hstage.exists_expression
    obtain ⟨w, t', ht'⟩ := houter.exists_expression ht
    refine ⟨v ++ w, t', ?_⟩
    simpa only [List.append_assoc] using ht'

/-- The reader gets through exactly the texts that can be continued. -/
theorem viable_iff_reads {u : List Char} : Viable u ↔ ∃ m, Reads .start u m := by
  constructor
  · rintro ⟨v, t, ht⟩
    -- The run through the whole expression comes by the end of `u`.
    obtain ⟨product, value, _, hreads⟩ := isExpression_iff_reads.mp ht
    obtain ⟨m, hu, _⟩ := hreads.split
    exact ⟨m, hu⟩
  · rintro ⟨m, hreads⟩
    exact hreads.memoryText.viable

/-! ## §2 The longest beginning that can be continued -/

/-- No character in front of which the reader stops continues what was read. -/
theorem Stops.not_viable {m : Memory} {u v : List Char} {c : Char} {rest : List Char}
    (hreads : Reads .start u m) (hstops : Stops m (c :: rest)) : ¬ Viable (u ++ c :: v) := by
  intro hviable
  obtain ⟨m'', hlong⟩ := viable_iff_reads.mp hviable
  obtain ⟨m', hu, hv⟩ := hlong.split
  -- The longer run comes through the memory at which the reader stopped.
  cases hu.det hreads
  cases hv with
  | cons hstep _ => exact hstops _ _ rfl hstep

/-- A run ends at the longest beginning that can be continued. -/
theorem isGreatest_viable {m : Memory} {u rest : List Char} (hreads : Reads .start u m)
    (hstops : Stops m rest) :
    IsGreatest {k | k ≤ (u ++ rest).length ∧ Viable ((u ++ rest).take k)} u.length := by
  constructor
  · refine ⟨by simp, ?_⟩
    rw [List.take_left]
    exact hreads.memoryText.viable
  · rintro k ⟨hk, hviable⟩
    by_contra hlt
    rw [not_le] at hlt
    cases rest with
    | nil =>
      rw [List.append_nil] at hk
      exact absurd hk (not_le.mpr hlt)
    | cons c rest =>
      -- A longer beginning holds the character in front of which the reader stops.
      obtain ⟨n, rfl⟩ := Nat.exists_eq_add_of_lt hlt
      rw [Nat.add_assoc, List.take_length_add_append, List.take_succ_cons] at hviable
      exact hstops.not_viable hreads hviable

/-! ## §3 The error at the end of a run -/

/-- The text ends with a digit or a closing brace, that is, with an operand. -/
def endsOperand (u : List Char) : Bool :=
  u.getLast?.any fun c => c.isDigit || c == '}'

/-- Whether an operator may come next. -/
def Stage.isOperator : Stage → Bool
  | .operand _ => false
  | .operator _ _ => true

theorem endsOperand_append_singleton (u : List Char) (c : Char) :
    endsOperand (u ++ [c]) = (c.isDigit || c == '}') := by
  simp [endsOperand]

/-- After a digit or a closing brace an operator may come, after any other character an operand
    has to. -/
theorem Step.isOperator {m m' : Memory} {c : Char} (h : Step m c m') :
    m'.stage.isOperator = (c.isDigit || c == '}') := by
  cases h with
  | opening outer pending => rfl
  | digit outer pending hdigit => simp [hdigit, Pending.complete, Stage.isOperator]
  | operator outer product value op =>
    have hstage : (afterOperator product value op).isOperator = false := by
      unfold afterOperator
      split <;> rfl
    show (afterOperator product value op).isOperator = _
    rw [hstage]
    cases op <;> decide
  | closing outer pending product value => rfl

theorem Reads.isOperator {m m' : Memory} {u v : List Char} (h : Reads m v m')
    (hu : m.stage.isOperator = endsOperand u) : m'.stage.isOperator = endsOperand (u ++ v) := by
  induction h generalizing u with
  | nil _ =>
    rw [List.append_nil]
    exact hu
  | @cons _ _ _ c v hstep _ ih =>
    have hc := hstep.isOperator
    rw [← endsOperand_append_singleton u c] at hc
    have hrest := ih hc
    rwa [List.append_assoc, List.singleton_append] at hrest

theorem Reads.endsOperand_eq {m : Memory} {u : List Char} (h : Reads .start u m) :
    endsOperand u = m.stage.isOperator :=
  (h.isOperator (u := []) rfl).symm

/-- What is said about a text that cannot go on after its first `k` characters. -/
def refusal (text : List Char) (k : Nat) : String :=
  if endsOperand (text.take k) then "expected closing brace '\x7d'"
  else
    match text[k]? with
    | some c => "expected digit, found '" ++ c.toString ++ "'"
    | none => "expected digit, found end of input"

/-- A run through an expression ends outside all groups, and its stop gives the tree. -/
theorem Reads.stop_of_isExpression {m : Memory} {u rest : List Char} {t : Expr}
    (hreads : Reads .start u m) (h : IsExpression u t) (position : Nat) :
    m.stop position rest = ⟨.ok t, ⟨position, rest⟩⟩ := by
  obtain ⟨product, value, hjoin, hreads'⟩ := isExpression_iff_reads.mp h
  cases hreads.det hreads'
  rw [Memory.stop, hjoin]

/-- A run through anything else ends with an error, at its end and with the message for that
    place. -/
theorem Reads.refused {m : Memory} {u rest : List Char} (hreads : Reads .start u m)
    (h : ¬ ∃ t, IsExpression u t) :
    ∃ e, (m.stop u.length rest).result = .error e ∧ e.position = u.length ∧
      e.message = refusal (u ++ rest) u.length := by
  have hends := hreads.endsOperand_eq
  have hnext : (u ++ rest)[u.length]? = rest.head? := by
    rw [List.getElem?_append_right (Nat.le_refl _), Nat.sub_self, List.head?_eq_getElem?]
  unfold refusal
  rw [List.take_left, hends, hnext]
  obtain ⟨outer, stage⟩ := m
  cases stage with
  | operand pending =>
    refine ⟨_, rfl, rfl, ?_⟩
    cases rest with
    | nil => rfl
    | cons c rest =>
      have hquote : "expected digit, found '" = "expected digit, found " ++ "'" := rfl
      show "expected digit, found " ++ ("'" ++ c.toString ++ "'") =
        "expected digit, found '" ++ c.toString ++ "'"
      rw [hquote, String.append_assoc, String.append_assoc, String.append_assoc]
  | operator product value =>
    cases outer with
    | nil =>
      -- Outside all groups, after an operand, the text would be an expression.
      exact absurd ⟨_, isExpression_iff_reads.mpr ⟨product, value, rfl, hreads⟩⟩ h
    | cons pending outer => exact ⟨_, rfl, rfl, rfl⟩

/-- Errors point at the first character that cannot go on.  Let `k` be the length of the
    longest beginning of the stripped line that is the beginning of an expression.  If it is an
    expression itself, then it is read and all behind it is left; if not, then the line is refused
    at position `k`, with the message for that place. -/
theorem readExpression_stops_at_longest_viable (line : String) :
    ∃ k, IsGreatest {k | k ≤ (Text.strip line).length ∧ Viable ((Text.strip line).take k)} k ∧
      ((∃ t, IsExpression ((Text.strip line).take k) t) →
        ∃ t, IsExpression ((Text.strip line).take k) t ∧ parse line = .ok t ∧
          (Cursor.ofText line).readExpression.cursor.remaining =
            String.ofList ((Text.strip line).drop k)) ∧
      ((¬ ∃ t, IsExpression ((Text.strip line).take k) t) →
        ∃ e, parse line = .error e ∧ e.position = k ∧
          e.message = refusal (Text.strip line) k) := by
  obtain ⟨u, rest, m, htext, hreads, hstops, hstop⟩ :=
    readExpression_eq_stop (Cursor.ofText line)
  have hposition : (Cursor.ofText line).position + u.length = u.length := Nat.zero_add _
  have hstrip : Text.strip line = u ++ rest := htext
  rw [hposition] at hstop
  unfold parse
  rw [hstop, hstrip]
  refine ⟨u.length, isGreatest_viable hreads hstops, ?_, ?_⟩
  · rw [List.take_left, List.drop_left]
    rintro ⟨t, ht⟩
    refine ⟨t, ht, ?_⟩
    rw [hreads.stop_of_isExpression ht]
    exact ⟨rfl, rfl⟩
  · rw [List.take_left]
    intro h
    exact hreads.refused h

end BraceArith.Grammar
