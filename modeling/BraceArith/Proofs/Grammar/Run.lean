import BraceArith.Grammar.Reader

/-!
# Runs of the reader

The reader as a machine that takes one character at a time.  Between two characters it remembers
the open groups and what may come next; a character either changes that memory or makes the reader
stop.  What comes of a text is settled by the longest run through it and by the memory at its end.

## Main definitions

- `Memory`: what the reader remembers between two characters
- `Step`: what one character does to the memory, one rule for each kind of character
- `Reads`: what a whole text does
- `Memory.stop`: what comes of reading when the reader stops

## Main statements

- `read_of_reads`, `read_of_stops`: the reader follows the machine
- `readExpression_of_reads`, `readExpression_eq_stop`: reading from a cursor is a run followed by a
  stop
-/

namespace BraceArith.Grammar

/-! ## §1 Memory and steps -/

/-- What the reader remembers between two characters. -/
structure Memory where
  /-- The groups that are open around the current one, innermost first. -/
  outer : List Pending
  /-- What may come next. -/
  stage : Stage

/-- The memory in front of a text: no group is open and an operand has to come. -/
def Memory.start : Memory :=
  ⟨[], .operand {}⟩

/-- What one character does to the memory. -/
inductive Step : Memory → Char → Memory → Prop where
  /-- An opening brace puts what waits aside and starts a group. -/
  | opening (outer : List Pending) (pending : Pending) :
      Step ⟨outer, .operand pending⟩ '{' ⟨pending :: outer, .operand {}⟩
  /-- A digit is an operand. -/
  | digit (outer : List Pending) (pending : Pending) {c : Char} :
      c.isDigit = true → Step ⟨outer, .operand pending⟩ c ⟨outer, pending.complete (digitValue c)⟩
  /-- An operator takes what was read as its left operand. -/
  | operator (outer : List Pending) (product : Waiting) (value : Expr) (op : Operator) :
      Step ⟨outer, .operator product value⟩ op.symbol ⟨outer, afterOperator product value op⟩
  /-- A closing brace makes the group an operand of the group around it. -/
  | closing (outer : List Pending) (pending : Pending) (product : Waiting) (value : Expr) :
      Step ⟨pending :: outer, .operator product value⟩ '}'
        ⟨outer, pending.complete (join product value)⟩

/-- The reader stops in front of `rest`: it is at the end, or the next character does nothing to
    the memory. -/
def Stops (m : Memory) (rest : List Char) : Prop :=
  ∀ c m', rest.head? = some c → ¬ Step m c m'

theorem ne_opening_of_isDigit {c : Char} (h : c.isDigit = true) : c ≠ '{' := by
  rintro rfl
  exact absurd h (by decide)

theorem symbol_ne_closing (op : Operator) : op.symbol ≠ '}' := by
  cases op <;> decide

/-- A character has at most one effect. -/
theorem Step.det {m m₁ m₂ : Memory} {c : Char} (h₁ : Step m c m₁) (h₂ : Step m c m₂) :
    m₁ = m₂ := by
  cases h₁ with
  | opening outer pending =>
    cases h₂ with
    | opening => rfl
    | digit _ _ hdigit => exact absurd rfl (ne_opening_of_isDigit hdigit)
  | digit outer pending hdigit =>
    cases h₂ with
    | opening => exact absurd rfl (ne_opening_of_isDigit hdigit)
    | digit => rfl
  | operator outer product value op =>
    -- `cases` does not see that a symbol settles its operator, so the character gets a name.
    generalize hsymbol : op.symbol = c at h₂
    cases h₂ with
    | operator _ _ _ op' =>
      have hop : some op = some op' := by
        rw [← Operator.ofChar?_symbol op, hsymbol, Operator.ofChar?_symbol]
      rw [Option.some.inj hop]
    | closing => exact absurd hsymbol (symbol_ne_closing op)
  | closing outer pending product value =>
    generalize hbrace : '}' = c at h₂
    cases h₂ with
    | operator _ _ _ op => exact absurd hbrace.symm (symbol_ne_closing op)
    | closing => rfl

/-! ## §2 Runs -/

/-- What a whole text does to the memory. -/
inductive Reads : Memory → List Char → Memory → Prop where
  | nil (m : Memory) : Reads m [] m
  | cons {m m' m'' : Memory} {c : Char} {u : List Char} :
      Step m c m' → Reads m' u m'' → Reads m (c :: u) m''

theorem Step.reads {m m' : Memory} {c : Char} (h : Step m c m') : Reads m [c] m' :=
  .cons h (.nil m')

theorem Reads.append {m m' m'' : Memory} {u v : List Char} (hu : Reads m u m')
    (hv : Reads m' v m'') : Reads m (u ++ v) m'' := by
  induction hu with
  | nil _ => exact hv
  | cons hstep _ ih => exact .cons hstep (ih hv)

/-- A run through two texts comes to a memory between them. -/
theorem Reads.split {m m'' : Memory} {u v : List Char} (h : Reads m (u ++ v) m'') :
    ∃ m', Reads m u m' ∧ Reads m' v m'' := by
  induction u generalizing m with
  | nil => exact ⟨m, .nil m, h⟩
  | cons c u ih =>
    cases h with
    | cons hstep hrest =>
      obtain ⟨m', hu, hv⟩ := ih hrest
      exact ⟨m', .cons hstep hu, hv⟩

theorem Reads.det {m m₁ m₂ : Memory} {u : List Char} (h₁ : Reads m u m₁) (h₂ : Reads m u m₂) :
    m₁ = m₂ := by
  induction h₁ with
  | nil _ =>
    cases h₂
    rfl
  | cons hstep _ ih =>
    cases h₂ with
    | cons hstep' hrest' =>
      cases hstep.det hstep'
      exact ih hrest'

/-- Every text has a longest run: up to its end, or to a character in front of which the reader
    stops. -/
theorem exists_reads_stops (m : Memory) (text : List Char) :
    ∃ u rest m', text = u ++ rest ∧ Reads m u m' ∧ Stops m' rest := by
  induction text generalizing m with
  | nil =>
    refine ⟨[], [], m, rfl, .nil m, ?_⟩
    intro c m' hhead
    cases hhead
  | cons c text ih =>
    by_cases hstep : ∃ m', Step m c m'
    · obtain ⟨m', hm'⟩ := hstep
      obtain ⟨u, rest, m'', rfl, hreads, hstops⟩ := ih m'
      exact ⟨c :: u, rest, m'', rfl, .cons hm' hreads, hstops⟩
    · -- The first character does nothing, so the longest run is empty.
      refine ⟨[], c :: text, m, rfl, .nil m, ?_⟩
      intro d m' hhead hd
      cases hhead
      exact hstep ⟨m', hd⟩

/-! ## §3 The reader follows the machine -/

/-- What comes of reading when the reader stops at `position` in front of `rest`.  A character
    that is no operand is read all the same. -/
def Memory.stop (m : Memory) (position : Nat) (rest : List Char) : Reading :=
  match m with
  | ⟨_, .operand _⟩ =>
    ⟨.error ⟨.expectedDigit rest.head?, position⟩, (Cursor.mk position rest).advance.2⟩
  | ⟨[], .operator product value⟩ => ⟨.ok (join product value), ⟨position, rest⟩⟩
  | ⟨_ :: _, .operator _ _⟩ => ⟨.error ⟨.expectedClosingBrace, position⟩, ⟨position, rest⟩⟩

theorem read_of_step {m m' : Memory} {c : Char} (h : Step m c m') (position : Nat)
    (rest : List Char) :
    read m.outer position m.stage (c :: rest) = read m'.outer (position + 1) m'.stage rest := by
  cases h with
  | opening outer pending => rw [read, if_pos rfl]
  | digit outer pending hdigit => rw [read, if_neg (ne_opening_of_isDigit hdigit), if_pos hdigit]
  | operator outer product value op =>
    rw [read]
    exact Operator.ofChar?_symbol op
  | closing outer pending product value =>
    have hop : Operator.ofChar? '}' = none := by decide
    simp only [read, hop, if_true]

/-- The reader gets through what the machine gets through, whatever follows. -/
theorem read_of_reads {m m' : Memory} {u : List Char} (h : Reads m u m') (position : Nat)
    (rest : List Char) :
    read m.outer position m.stage (u ++ rest) =
      read m'.outer (position + u.length) m'.stage rest := by
  induction h generalizing position with
  | nil _ => rfl
  | cons hstep _ ih =>
    rw [List.cons_append, read_of_step hstep, ih, List.length_cons, Nat.add_assoc,
      Nat.add_comm 1]

/-- The reader stops where the machine does. -/
theorem read_of_stops {m : Memory} {rest : List Char} (h : Stops m rest) (position : Nat) :
    read m.outer position m.stage rest = m.stop position rest := by
  obtain ⟨outer, stage⟩ := m
  cases stage with
  | operand pending =>
    cases rest with
    | nil => rfl
    | cons c rest =>
      -- Neither a brace nor a digit: either would be a step.
      have hopening : c ≠ '{' := by
        rintro rfl
        exact h _ _ rfl (.opening outer pending)
      have hdigit : ¬ c.isDigit = true := fun hc => h _ _ rfl (.digit outer pending hc)
      rw [read, if_neg hopening, if_neg hdigit]
      rfl
  | operator product value =>
    cases rest with
    | nil => cases outer <;> rfl
    | cons c rest =>
      -- No operator, and no closing brace while a group is open.
      have hop : Operator.ofChar? c = none := by
        rw [Option.eq_none_iff_forall_ne_some]
        intro op hc
        rw [Operator.ofChar?_eq_some_iff.mp hc] at h
        exact h _ _ rfl (.operator outer product value op)
      cases outer with
      | nil => simp only [read, hop, Memory.stop]
      | cons pending outer =>
        have hclosing : c ≠ '}' := by
          rintro rfl
          exact h _ _ rfl (.closing outer pending product value)
        simp only [read, hop, if_neg hclosing, Memory.stop]

theorem readExpression_of_reads {m : Memory} {u rest : List Char} (hreads : Reads .start u m)
    (hstops : Stops m rest) (position : Nat) :
    (Cursor.mk position (u ++ rest)).readExpression = m.stop (position + u.length) rest :=
  (read_of_reads hreads position rest).trans (read_of_stops hstops _)

/-- Reading is a run and a stop: what comes of a text is settled by the memory at the end of the
    longest run through it. -/
theorem readExpression_eq_stop (c : Cursor) :
    ∃ u rest m, c.rest = u ++ rest ∧ Reads .start u m ∧ Stops m rest ∧
      c.readExpression = m.stop (c.position + u.length) rest := by
  obtain ⟨u, rest, m, htext, hreads, hstops⟩ := exists_reads_stops .start c.rest
  refine ⟨u, rest, m, htext, hreads, hstops, ?_⟩
  rw [← readExpression_of_reads hreads hstops, ← htext]

end BraceArith.Grammar
