import BraceArith.Grammar.Rules
import BraceArith.Proofs.Grammar.Run
import BraceArith.Session.Report

/-!
# What the reader accepts

The reader accepts exactly the grammar.  One direction follows a run: whatever the reader has read
so far is written in its memory, in the order in which it was read, so that a reader that stops
outside all groups has read an expression.  The other direction follows a derivation: the text of
a term, a factor or an expression takes the reader from a place where one may start to the place
after it, whatever follows.

## Main definitions

- `MemoryText`: the texts that a memory can stand for
- `Accepted`: a line is an expression with something behind it that is no operator

## Main statements

- `MemoryText.reads`: reading a text adds it to what the memory stands for
- `IsExpression.reads`, `IsFactor.reads`, `IsTerm.reads`: derivations are runs
- `isExpression_iff_reads`: the expressions are the texts that end a run outside all groups
- `Accepted.readExpression_eq`, `exists_accepted_of_readExpression`: the reader reads what is
  accepted, and accepts what it reads
-/

namespace BraceArith.Grammar

/-! ## §1 What a memory stands for -/

/-- The text of a waiting operand and its operator.  `Operand` says which texts the operand may
    have, and `additive` which operators may wait. -/
inductive WaitingText (Operand : List Char → Expr → Prop) (additive : Bool) :
    Waiting → List Char → Prop where
  | none : WaitingText Operand additive none []
  | some {u : List Char} {left : Expr} {op : Operator} :
      Operand u left → op.isAdditive = additive →
      WaitingText Operand additive (some (left, op)) (u ++ [op.symbol])

/-- The text that was read in a group before the operand that comes next. -/
inductive PendingText : Pending → List Char → Prop where
  | mk {product sum : Waiting} {u v : List Char} :
      WaitingText IsExpression false product u → WaitingText IsFactor true sum v →
      PendingText ⟨product, sum⟩ (u ++ v)

/-- The text that was read in a group. -/
inductive StageText : Stage → List Char → Prop where
  | operand {pending : Pending} {u : List Char} :
      PendingText pending u → StageText (.operand pending) u
  | operator {product : Waiting} {value : Expr} {u v : List Char} :
      WaitingText IsExpression false product u → IsFactor v value →
      StageText (.operator product value) (u ++ v)

/-- The text that was read before the innermost group: for every open group what waited in front
    of it, and its brace. -/
inductive OuterText : List Pending → List Char → Prop where
  | nil : OuterText [] []
  | cons {pending : Pending} {outer : List Pending} {u v : List Char} :
      OuterText outer u → PendingText pending v → OuterText (pending :: outer) (u ++ (v ++ ['{']))

/-- Everything that was read: the text before the innermost group, then the text in it. -/
inductive MemoryText : Memory → List Char → Prop where
  | mk {outer : List Pending} {stage : Stage} {u v : List Char} :
      OuterText outer u → StageText stage v → MemoryText ⟨outer, stage⟩ (u ++ v)

theorem StageText.empty : StageText (.operand {}) [] :=
  .operand (.mk .none .none)

theorem MemoryText.start : MemoryText .start [] :=
  .mk .nil .empty

/-! ## §2 Reading adds to what the memory stands for -/

theorem WaitingText.expression {product : Waiting} {value : Expr} {u v : List Char}
    (hproduct : WaitingText IsExpression false product u) (hvalue : IsFactor v value) :
    IsExpression (u ++ v) (join product value) := by
  cases hproduct with
  | none => exact .factor hvalue
  | some hleft hop =>
    rw [List.append_assoc]
    exact .chain hleft hop hvalue

theorem WaitingText.factor {sum : Waiting} {operand : Expr} {u v : List Char}
    (hsum : WaitingText IsFactor true sum u) (hoperand : IsTerm v operand) :
    IsFactor (u ++ v) (join sum operand) := by
  cases hsum with
  | none => exact .term hoperand
  | some hleft hop =>
    rw [List.append_assoc]
    exact .chain hleft hop hoperand

theorem PendingText.complete {pending : Pending} {operand : Expr} {u v : List Char}
    (hpending : PendingText pending u) (hoperand : IsTerm v operand) :
    StageText (pending.complete operand) (u ++ v) := by
  cases hpending with
  | mk hproduct hsum =>
    rw [List.append_assoc]
    exact .operator hproduct (hsum.factor hoperand)

theorem StageText.expression {product : Waiting} {value : Expr} {u : List Char}
    (h : StageText (.operator product value) u) : IsExpression u (join product value) := by
  cases h with
  | operator hproduct hvalue => exact hproduct.expression hvalue

theorem StageText.afterOperator {product : Waiting} {value : Expr} {u : List Char}
    (h : StageText (.operator product value) u) (op : Operator) :
    StageText (Grammar.afterOperator product value op) (u ++ [op.symbol]) := by
  unfold Grammar.afterOperator
  cases hop : op.isAdditive with
  | true =>
    -- The factor alone is the left operand; what waits for a product goes on waiting.
    cases h with
    | operator hproduct hvalue =>
      rw [List.append_assoc]
      exact .operand (.mk hproduct (.some hvalue hop))
  | false =>
    -- The whole expression is the left operand.
    have hpending : PendingText ⟨some (join product value, op), none⟩ (u ++ [op.symbol] ++ []) :=
      .mk (.some h.expression hop) .none
    rw [List.append_nil] at hpending
    exact .operand hpending

/-- A step adds its character to what the memory stands for. -/
theorem MemoryText.step {m m' : Memory} {c : Char} {u : List Char} (h : MemoryText m u)
    (hstep : Step m c m') : MemoryText m' (u ++ [c]) := by
  cases hstep with
  | opening outer pending =>
    cases h with
    | mk houter hstage =>
      cases hstage with
      | operand hpending =>
        -- What waited goes to the outer text with the brace; the new group is still empty.
        rw [List.append_assoc, ← List.append_nil (_ ++ (_ ++ ['{']))]
        exact .mk (.cons houter hpending) .empty
  | digit outer pending hdigit =>
    cases h with
    | mk houter hstage =>
      cases hstage with
      | operand hpending =>
        rw [List.append_assoc]
        exact .mk houter (hpending.complete (.digit hdigit))
  | operator outer product value op =>
    cases h with
    | mk houter hstage =>
      rw [List.append_assoc]
      exact .mk houter (hstage.afterOperator op)
  | closing outer pending product value =>
    cases h with
    | mk houter hstage =>
      cases houter with
      | @cons _ _ u v houter hpending =>
        -- The group's text, its braces included, is a term of the group around it.
        have hterm := IsTerm.group hstage.expression
        have hmemory := MemoryText.mk houter (hpending.complete hterm)
        simpa only [List.append_assoc, List.cons_append, List.nil_append] using hmemory

/-- A run adds its text to what the memory stands for. -/
theorem MemoryText.reads {m m' : Memory} {u v : List Char} (h : MemoryText m u)
    (hreads : Reads m v m') : MemoryText m' (u ++ v) := by
  induction hreads generalizing u with
  | nil _ =>
    rw [List.append_nil]
    exact h
  | @cons _ _ _ c v hstep _ ih =>
    have hrest := ih (h.step hstep)
    rwa [List.append_assoc, List.singleton_append] at hrest

theorem Reads.memoryText {m : Memory} {u : List Char} (h : Reads .start u m) : MemoryText m u :=
  MemoryText.start.reads h

/-! ## §3 Derivations are runs -/

mutual

/-- An expression takes the reader from the start of a group to a place where the group can end,
    with the expression's tree. -/
theorem IsExpression.reads {u : List Char} {t : Expr} :
    IsExpression u t → ∀ outer : List Pending, ∃ product value, join product value = t ∧
      Reads ⟨outer, .operand {}⟩ u ⟨outer, .operator product value⟩
  | .factor hfactor => by
    intro outer
    exact ⟨none, t, rfl, hfactor.reads outer none⟩
  | @IsExpression.chain _ _ l r op hleft hop hright => by
    intro outer
    obtain ⟨product, value, hjoin, hu⟩ := hleft.reads outer
    -- The operator takes everything before it, that is, the tree of the left expression.
    have hstep := Step.operator outer product value op
    rw [afterOperator, hop, hjoin] at hstep
    exact ⟨some (l, op), r, rfl, hu.append (.cons hstep (hright.reads outer (some (l, op))))⟩

/-- A factor takes the reader over a sum, whatever waits for a product. -/
theorem IsFactor.reads {u : List Char} {t : Expr} :
    IsFactor u t → ∀ (outer : List Pending) (product : Waiting),
      Reads ⟨outer, .operand ⟨product, none⟩⟩ u ⟨outer, .operator product t⟩
  | .term hterm => by
    intro outer product
    exact hterm.reads outer ⟨product, none⟩
  | @IsFactor.chain _ _ l _ op hleft hop hright => by
    intro outer product
    have hstep := Step.operator outer product l op
    rw [afterOperator, hop] at hstep
    exact (hleft.reads outer product).append
      (.cons hstep (hright.reads outer ⟨product, some (l, op)⟩))

/-- A term takes the reader over an operand, whatever waits for it. -/
theorem IsTerm.reads {u : List Char} {t : Expr} :
    IsTerm u t → ∀ (outer : List Pending) (pending : Pending),
      Reads ⟨outer, .operand pending⟩ u ⟨outer, pending.complete t⟩
  | .digit hdigit => by
    intro outer pending
    exact (Step.digit outer pending hdigit).reads
  | .group hinner => by
    intro outer pending
    -- Inside the braces the reader starts afresh; what waited outside is kept on the stack.
    obtain ⟨product, value, hjoin, hreads⟩ := hinner.reads (pending :: outer)
    have hclosing := Step.closing outer pending product value
    rw [hjoin] at hclosing
    exact .cons (.opening outer pending) (hreads.append hclosing.reads)

end

/-- The expressions are the texts whose run ends outside all groups, after an operand. -/
theorem isExpression_iff_reads {u : List Char} {t : Expr} :
    IsExpression u t ↔
      ∃ product value, join product value = t ∧ Reads .start u ⟨[], .operator product value⟩ := by
  constructor
  · intro h
    exact h.reads []
  · rintro ⟨product, value, rfl, hreads⟩
    cases hreads.memoryText with
    | mk houter hstage =>
      cases houter
      exact hstage.expression

/-! ## §4 Accepted lines -/

/-- The line, its blanks taken out, is an expression's text `u` that stands for `t`, and then
    `rest`, which does not begin with an operator. -/
structure Accepted (line : String) (u : List Char) (t : Expr) (rest : String) : Prop where
  strip_eq : Text.strip line = u ++ rest.toList
  expression : IsExpression u t
  no_operator : ∀ c ∈ rest.toList.head?, c ∉ ['+', '-', '*', '/']

theorem mem_symbols_iff {c : Char} : c ∈ ['+', '-', '*', '/'] ↔ ∃ op : Operator, c = op.symbol := by
  constructor
  · intro h
    simp only [List.mem_cons, List.not_mem_nil, or_false] at h
    rcases h with rfl | rfl | rfl | rfl
    · exact ⟨.add, rfl⟩
    · exact ⟨.sub, rfl⟩
    · exact ⟨.mul, rfl⟩
    · exact ⟨.div, rfl⟩
  · rintro ⟨op, rfl⟩
    cases op <;> decide

/-- Outside all groups the reader stops in front of everything but operators. -/
theorem stops_outside_iff {product : Waiting} {value : Expr} {rest : List Char} :
    Stops ⟨[], .operator product value⟩ rest ↔ ∀ c ∈ rest.head?, c ∉ ['+', '-', '*', '/'] := by
  constructor
  · intro h c hc hmem
    obtain ⟨op, rfl⟩ := mem_symbols_iff.mp hmem
    exact h _ _ hc (.operator [] product value op)
  · intro h c m' hc hstep
    cases hstep with
    | operator _ _ _ op => exact h _ hc (mem_symbols_iff.mpr ⟨op, rfl⟩)

/-- An accepted line is read to the end of its expression. -/
theorem Accepted.readExpression_eq {line : String} {u : List Char} {t : Expr} {rest : String}
    (h : Accepted line u t rest) :
    (Cursor.ofText line).readExpression = ⟨.ok t, ⟨u.length, rest.toList⟩⟩ := by
  obtain ⟨product, value, hjoin, hreads⟩ := isExpression_iff_reads.mp h.expression
  have hstops : Stops ⟨[], .operator product value⟩ rest.toList :=
    stops_outside_iff.mpr h.no_operator
  calc (Cursor.ofText line).readExpression
      = read [] 0 (.operand {}) (u ++ rest.toList) := by
        rw [Cursor.readExpression, Cursor.ofText, h.strip_eq]
    _ = read [] (0 + u.length) (.operator product value) rest.toList :=
        read_of_reads hreads 0 rest.toList
    _ = Memory.stop ⟨[], .operator product value⟩ (0 + u.length) rest.toList :=
        read_of_stops hstops _
    _ = ⟨.ok t, ⟨u.length, rest.toList⟩⟩ := by rw [Memory.stop, hjoin, Nat.zero_add]

/-- A line that is read as an expression is accepted, with what is left as its rest. -/
theorem exists_accepted_of_readExpression {line : String} {t : Expr}
    (h : (Cursor.ofText line).readExpression.result = .ok t) :
    ∃ u, Accepted line u t (Cursor.ofText line).readExpression.cursor.remaining := by
  obtain ⟨u, rest, m, htext, hreads, hstops, hstop⟩ :=
    readExpression_eq_stop (Cursor.ofText line)
  rw [hstop] at h ⊢
  -- A reader that stops in a group or in front of an operand gives no tree.
  obtain ⟨outer, stage⟩ := m
  cases stage with
  | operand pending => simp [Memory.stop] at h
  | operator product value =>
    cases outer with
    | cons pending outer => simp [Memory.stop] at h
    | nil =>
      have hjoin : join product value = t := by
        simpa [Memory.stop] using h
      refine ⟨u, ?_, isExpression_iff_reads.mpr ⟨product, value, hjoin, hreads⟩, ?_⟩
      · simpa [Memory.stop, Cursor.remaining, Cursor.ofText] using htext
      · simpa [Memory.stop, Cursor.remaining] using stops_outside_iff.mp hstops

theorem Accepted.unique {line : String} {u u' : List Char} {t t' : Expr} {rest rest' : String}
    (h : Accepted line u t rest) (h' : Accepted line u' t' rest') :
    u = u' ∧ t = t' ∧ rest = rest' := by
  -- Both ways describe the one reading of the line.
  have hreading := h.readExpression_eq.symm.trans h'.readExpression_eq
  simp only [Reading.mk.injEq, Except.ok.injEq, Cursor.mk.injEq] at hreading
  obtain ⟨rfl, _, hrest⟩ := hreading
  have hrest : rest = rest' := String.toList_inj.mp hrest
  subst hrest
  exact ⟨List.append_cancel_right (h.strip_eq.symm.trans h'.strip_eq), rfl, rfl⟩

/-- The report on an accepted line holds its tree and what is left, if anything is. -/
theorem Accepted.analyze_eq {line : String} {u : List Char} {t : Expr} {rest : String}
    (h : Accepted line u t rest) :
    analyze line = .ok (.ofTree line t (if rest = "" then none else some rest)) := by
  have htrailing : (Cursor.mk u.length rest.toList).trailing =
      if rest = "" then none else some rest := by
    simp [Cursor.trailing, Cursor.atEnd, Cursor.remaining]
  have hreading := h.readExpression_eq
  rw [analyze_of_ok (congrArg Reading.result hreading), hreading, htrailing]

/-- The reader accepts exactly its grammar: a line is read as the tree `t` with `rest` left
    over if and only if, blanks taken out, it is an expression for `t` followed by `rest`, and
    `rest` does not begin with an operator.  This happens in one way only, and the line's report
    shows the tree and the rest, an empty rest as none. -/
theorem readExpression_iff_accepted (line : String) :
    (∀ t rest,
      ((Cursor.ofText line).readExpression.result = .ok t ∧
        (Cursor.ofText line).readExpression.cursor.remaining = rest) ↔
      ∃ u, Accepted line u t rest) ∧
    (∀ u u' t t' rest rest', Accepted line u t rest → Accepted line u' t' rest' →
      u = u' ∧ t = t' ∧ rest = rest') ∧
    (∀ t trailing,
      (∃ report, analyze line = .ok report ∧ report.tree = t ∧ report.trailing = trailing) ↔
      ∃ u rest, Accepted line u t rest ∧ trailing = if rest = "" then none else some rest) := by
  refine ⟨?_, ?_, ?_⟩
  · intro t rest
    constructor
    · rintro ⟨hresult, rfl⟩
      exact exists_accepted_of_readExpression hresult
    · rintro ⟨u, h⟩
      rw [h.readExpression_eq]
      exact ⟨rfl, String.ofList_toList⟩
  · intro u u' t t' rest rest' h h'
    exact h.unique h'
  · intro t trailing
    constructor
    · rintro ⟨report, hreport, rfl, rfl⟩
      cases hresult : (Cursor.ofText line).readExpression.result with
      | error e =>
        rw [analyze_of_error hresult] at hreport
        cases hreport
      | ok t =>
        obtain ⟨u, h⟩ := exists_accepted_of_readExpression hresult
        have hok := hreport.symm.trans h.analyze_eq
        cases hok
        exact ⟨u, _, h, rfl⟩
    · rintro ⟨u, rest, h, rfl⟩
      exact ⟨_, h.analyze_eq, rfl, rfl⟩

end BraceArith.Grammar
