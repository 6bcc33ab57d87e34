import BraceArith.Proofs.Grammar.Run

/-!
# Reading on from where reading stopped

A cursor can be read from again and again, each time from where it was left, no matter whether an
expression was found there.  The reader has no memory of what came before: it reads from a place
in a text as it would read from the start of what is left, and only the positions of its errors
tell the difference.  Every reading takes at least one character while there is one, because a
character that is no operand has been read when it is reported.  So the pieces that the readings
take make up the text, and there are at most as many of them as it has characters.

## Main definitions

- `Cursor.Passes`: going from one cursor to another takes exactly the given characters
- `Cursor.afterReadings`: the cursor after several readings
- `Cursor.pieces`: the characters that each reading takes
- `Grammar.Reading.shift`: the same reading, further on in a text

## Main statements

- `Cursor.readExpression_shift`: reading does not depend on the position
- `Cursor.passes_taken`, `Cursor.passes_pieces`: what one reading takes, and what several take
- `Cursor.position_lt_readExpression`: a reading takes something
-/

namespace BraceArith

namespace Cursor

/-! ## §1 From one cursor to another -/

/-- Going from `c` to `d` takes exactly the characters `u`. -/
structure Passes (c : Cursor) (u : List Char) (d : Cursor) : Prop where
  rest_eq : c.rest = u ++ d.rest
  position_eq : d.position = c.position + u.length

theorem Passes.refl (c : Cursor) : c.Passes [] c :=
  ⟨rfl, rfl⟩

theorem Passes.trans {c d e : Cursor} {u v : List Char} (h : c.Passes u d) (h' : d.Passes v e) :
    c.Passes (u ++ v) e := by
  refine ⟨?_, ?_⟩
  · rw [h.rest_eq, h'.rest_eq, List.append_assoc]
  · rw [h'.position_eq, h.position_eq, List.length_append, Nat.add_assoc]

theorem Passes.position_le {c d : Cursor} {u : List Char} (h : c.Passes u d) :
    c.position ≤ d.position := by
  rw [h.position_eq]
  exact Nat.le_add_right _ _

theorem Passes.position_add_length {c d : Cursor} {u : List Char} (h : c.Passes u d) :
    d.position + d.rest.length = c.position + c.rest.length := by
  rw [h.rest_eq, h.position_eq, List.length_append, Nat.add_assoc]

theorem passes_advance (c : Cursor) : c.Passes c.peek.toList c.advance.2 := by
  obtain ⟨position, rest⟩ := c
  cases rest with
  | nil => exact .refl _
  | cons next rest => exact ⟨rfl, rfl⟩

theorem Passes.eq_take {c d : Cursor} {u : List Char} (h : c.Passes u d) :
    u = c.rest.take (d.position - c.position) := by
  rw [h.rest_eq, h.position_eq, Nat.add_sub_cancel_left, List.take_left]

theorem Passes.eq_drop {c d : Cursor} {u : List Char} (h : c.Passes u d) :
    d.rest = c.rest.drop (d.position - c.position) := by
  rw [h.rest_eq, h.position_eq, Nat.add_sub_cancel_left, List.drop_left]

end Cursor

namespace Grammar

/-! ## §2 One reading -/

/-- The same reading, `offset` characters further on. -/
def Reading.shift (r : Reading) (offset : Nat) : Reading :=
  ⟨r.result.mapError (·.shift offset), ⟨r.cursor.position + offset, r.cursor.rest⟩⟩

theorem Memory.stop_add (m : Memory) (position offset : Nat) (rest : List Char) :
    m.stop (offset + position) rest = (m.stop position rest).shift offset := by
  obtain ⟨outer, stage⟩ := m
  rw [Nat.add_comm]
  cases stage with
  | operand pending =>
    cases rest with
    | nil => rfl
    | cons c rest =>
      -- The character in question has been read, so that the cursor is one further on.
      show Reading.mk (.error ⟨.expectedDigit (some c), position + offset⟩)
        ⟨position + offset + 1, rest⟩ = _
      rw [Nat.add_right_comm]
      rfl
  | operator product value => cases outer <;> rfl

theorem Memory.exists_passes_stop (m : Memory) (position : Nat) (rest : List Char) :
    ∃ u, (Cursor.mk position rest).Passes u (m.stop position rest).cursor := by
  obtain ⟨outer, stage⟩ := m
  cases stage with
  | operand pending => exact ⟨_, Cursor.passes_advance _⟩
  | operator product value => cases outer <;> exact ⟨[], .refl _⟩

end Grammar

namespace Cursor

open Grammar (Memory)

/-- Reading from a place is reading from the start of what is left, errors moved on. -/
theorem readExpression_shift (position : Nat) (rest : List Char) :
    (mk position rest).readExpression = (mk 0 rest).readExpression.shift position := by
  obtain ⟨u, rest, m, rfl, hreads, hstops⟩ := Grammar.exists_reads_stops .start rest
  rw [Grammar.readExpression_of_reads hreads hstops, Grammar.readExpression_of_reads hreads hstops,
    Nat.zero_add, Memory.stop_add]

/-- The characters that a reading takes. -/
def taken (c : Cursor) : List Char :=
  c.rest.take (c.readExpression.cursor.position - c.position)

theorem passes_taken (c : Cursor) : c.Passes c.taken c.readExpression.cursor := by
  obtain ⟨u, rest, m, htext, hreads, hstops, hstop⟩ := Grammar.readExpression_eq_stop c
  obtain ⟨v, hv⟩ := m.exists_passes_stop (c.position + u.length) rest
  -- First the run, then what the stop takes.
  have hrun : c.Passes u ⟨c.position + u.length, rest⟩ := ⟨htext, rfl⟩
  have hpasses := hrun.trans hv
  rw [← hstop] at hpasses
  rw [taken, ← hpasses.eq_take]
  exact hpasses

theorem readExpression_of_rest_nil {c : Cursor} (h : c.rest = []) :
    c.readExpression = ⟨.error ⟨.expectedDigit none, c.position⟩, c⟩ := by
  obtain ⟨position, rest⟩ := c
  cases h
  rfl

/-- A reading takes something while there is something. -/
theorem position_lt_readExpression {c : Cursor} (h : c.rest ≠ []) :
    c.position < c.readExpression.cursor.position := by
  obtain ⟨u, rest, m, htext, hreads, hstops, hstop⟩ := Grammar.readExpression_eq_stop c
  rw [hstop]
  cases u with
  | nil =>
    -- The first character is no operand, and is taken all the same.
    cases hreads
    cases rest with
    | nil => exact absurd htext h
    | cons next rest => exact Nat.lt_succ_self _
  | cons first u =>
    obtain ⟨v, hv⟩ := m.exists_passes_stop (c.position + (first :: u).length) rest
    calc c.position < c.position + (first :: u).length := Nat.lt_add_of_pos_right (Nat.succ_pos _)
      _ ≤ (m.stop (c.position + (first :: u).length) rest).cursor.position := hv.position_le

/-- An error leaves the cursor where it arose, but behind a character that is no operand. -/
theorem position_of_error {c : Cursor} {e : SyntaxError} (h : c.readExpression.result = .error e) :
    (∃ found, e.cause = .expectedDigit found ∧
      c.readExpression.cursor.position =
        if e.position < c.position + c.rest.length then e.position + 1 else e.position) ∨
    (e.cause = .expectedClosingBrace ∧ c.readExpression.cursor.position = e.position) := by
  obtain ⟨u, rest, ⟨outer, stage⟩, htext, hreads, hstops, hstop⟩ :=
    Grammar.readExpression_eq_stop c
  rw [hstop] at h ⊢
  cases stage with
  | operand pending =>
    cases h
    refine Or.inl ⟨rest.head?, rfl, ?_⟩
    cases rest with
    | nil => simp [Memory.stop, advance, htext]
    | cons next rest => simp [Memory.stop, advance, htext]
  | operator product value =>
    cases outer with
    | nil => cases h
    | cons pending outer =>
      cases h
      exact Or.inr ⟨rfl, rfl⟩

/-! ## §3 Many readings -/

/-- The cursor after `n` readings, each from where the one before it stopped. -/
def afterReadings (c : Cursor) : Nat → Cursor
  | 0 => c
  | n + 1 => (c.afterReadings n).readExpression.cursor

/-- The characters that each of the first `n` readings takes. -/
def pieces (c : Cursor) (n : Nat) : List (List Char) :=
  (List.range n).map fun i => (c.afterReadings i).taken

/-- Readings take the text piece by piece. -/
theorem passes_pieces (c : Cursor) (n : Nat) :
    c.Passes (c.pieces n).flatten (c.afterReadings n) := by
  induction n with
  | zero => exact .refl c
  | succ n ih =>
    have hnext := ih.trans (passes_taken (c.afterReadings n))
    simpa [pieces, List.range_succ, afterReadings] using hnext

/-- After `n` readings at least `n` characters have been taken, or all. -/
theorem min_le_position_afterReadings (c : Cursor) (n : Nat) :
    c.position + min n c.rest.length ≤ (c.afterReadings n).position := by
  induction n with
  | zero => simp [afterReadings]
  | succ n ih =>
    have hpasses := passes_pieces c n
    by_cases hrest : (c.afterReadings n).rest = []
    · -- Everything has been taken, and stays so.
      have hstay : c.afterReadings (n + 1) = c.afterReadings n := by
        rw [afterReadings, readExpression_of_rest_nil hrest]
      rw [hstay, hpasses.position_eq, hpasses.rest_eq, hrest, List.append_nil]
      omega
    · have hlt := position_lt_readExpression hrest
      rw [afterReadings]
      omega

/-! ## §4 Reading through a line -/

section

variable (line : String) (n : Nat)

theorem take_position_afterReadings :
    (Text.strip line).take ((ofText line).afterReadings n).position =
      ((ofText line).pieces n).flatten :=
  (passes_pieces (ofText line) n).eq_take.symm

theorem drop_position_afterReadings :
    (Text.strip line).drop ((ofText line).afterReadings n).position =
      ((ofText line).afterReadings n).rest :=
  (passes_pieces (ofText line) n).eq_drop.symm

theorem position_add_length_afterReadings :
    ((ofText line).afterReadings n).position + ((ofText line).afterReadings n).rest.length =
      (Text.strip line).length :=
  (passes_pieces (ofText line) n).position_add_length.trans (Nat.zero_add _)

/-- A part of a stripped text holds no blanks, so a fresh cursor stands in front of all of it. -/
theorem ofText_ofList_drop (text : String) (k : Nat) :
    ofText (String.ofList ((Text.strip text).drop k)) = ⟨0, (Text.strip text).drop k⟩ := by
  rw [ofText, Text.strip_ofList_drop]

/-- The next reading is a reading of what is left, moved on. -/
theorem readExpression_afterReadings :
    ((ofText line).afterReadings n).readExpression =
      (ofText (String.ofList
        ((Text.strip line).drop ((ofText line).afterReadings n).position))).readExpression.shift
          ((ofText line).afterReadings n).position := by
  rw [readExpression_shift, ofText_ofList_drop, drop_position_afterReadings]

end

end Cursor

/-- Readings of one line go on like readings of what is left of it, and get through it.

    After any number of readings the cursor stands in the stripped line, and the next reading has
    the result of reading what is left from its start, errors moved on by the cursor's position,
    and leaves the same rest.  It takes something unless nothing is left, and then it asks for a
    digit and takes nothing.  A character that is no digit is taken when it is reported, whereas a
    missing brace takes nothing.  The pieces taken make up the line as far as it has been read,
    which is all of it after as many readings as it has characters. -/
theorem readings_resume_and_finish (line : String) (n : Nat) :
    let w := Text.strip line
    let c := (Cursor.ofText line).afterReadings n
    let fresh := (Cursor.ofText (String.ofList (w.drop c.position))).readExpression
    let next := c.readExpression
    c.position ≤ w.length ∧
    c.remaining = String.ofList (w.drop c.position) ∧
    next.result = fresh.result.mapError (·.shift c.position) ∧
    next.cursor.remaining = fresh.cursor.remaining ∧
    (c.position < w.length →
      c.position < next.cursor.position ∧ next.cursor.position ≤ w.length) ∧
    (c.position = w.length →
      (∃ e, next.result = .error e ∧ e.message = "expected digit, found end of input" ∧
        e.position = w.length) ∧ next.cursor = c) ∧
    (∀ e, next.result = .error e →
      (∃ found, e.cause = .expectedDigit found ∧
        next.cursor.position = if e.position < w.length then e.position + 1 else e.position) ∨
      (e.cause = .expectedClosingBrace ∧ next.cursor.position = e.position)) ∧
    ((Cursor.ofText line).pieces n).flatten = w.take c.position ∧
    (w.length ≤ n → c.atEnd = true ∧ ((Cursor.ofText line).pieces n).flatten = w) := by
  intro w c fresh next
  have htake : w.take c.position = ((Cursor.ofText line).pieces n).flatten :=
    Cursor.take_position_afterReadings line n
  have hdrop : w.drop c.position = c.rest := Cursor.drop_position_afterReadings line n
  have hlength : c.position + c.rest.length = w.length :=
    Cursor.position_add_length_afterReadings line n
  have hfresh : next = fresh.shift c.position := Cursor.readExpression_afterReadings line n
  have hnil : c.rest = [] ↔ c.position = w.length := by
    rw [← List.length_eq_zero_iff]
    omega
  refine ⟨by omega, ?_, ?_, ?_, ?_, ?_, ?_, htake.symm, ?_⟩
  · rw [hdrop, Cursor.remaining]
  · rw [hfresh]
    rfl
  · rw [hfresh]
    rfl
  · intro hlt
    have hleft : c.rest ≠ [] := by
      rw [Ne, hnil]
      omega
    have hkept : next.cursor.position + next.cursor.rest.length = c.position + c.rest.length :=
      (Cursor.passes_taken c).position_add_length
    exact ⟨Cursor.position_lt_readExpression hleft, by omega⟩
  · intro hend
    have hstop := Cursor.readExpression_of_rest_nil (hnil.mpr hend)
    refine ⟨⟨_, congrArg Grammar.Reading.result hstop, rfl, hend⟩, ?_⟩
    exact congrArg Grammar.Reading.cursor hstop
  · intro e herror
    rw [← hlength]
    exact Cursor.position_of_error herror
  · intro hn
    have hall : c.position = w.length := by
      have hmin : (Cursor.ofText line).position + min n w.length ≤ c.position :=
        Cursor.min_le_position_afterReadings _ n
      omega
    refine ⟨?_, ?_⟩
    · rw [Cursor.atEnd, hnil.mpr hall]
      rfl
    · rw [← htake, hall, List.take_length]

end BraceArith
