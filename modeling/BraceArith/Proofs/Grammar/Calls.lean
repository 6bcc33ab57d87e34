import BraceArith.Proofs.Grammar.Resume

/-!
# Calls on a cursor

A cursor is asked where it stands and told to read, in any order.  Whatever the calls, the
characters that their answers say were read make up the stripped text together with what is left.
Nothing else ties a cursor to its text: the position counts the characters read, the next character
is the one at the position, and the end is where the position reaches the length of the text.

## Main definitions

- `Cursor.Call`, `Cursor.Answer`, `Cursor.call`: a call, its answer and the cursor afterwards
- `Cursor.run`: many calls, one after another
- `Cursor.consumed`: the characters read, as the answers tell

## Main statements

- `Cursor.passes_call`, `Cursor.passes_run`: what one call reads, and what many read
- `Cursor.call_of_isRead_or_failed`: questions and calls that fail leave the cursor where it is
-/

namespace BraceArith.Cursor

/-! ## §1 Calls and their answers -/

/-- What a cursor can be asked or told. -/
inductive Call where
  | peek
  | advance
  | accept (expected : Char)
  | position
  | atEnd
  | remaining
deriving DecidableEq, Repr

/-- What comes back. -/
inductive Answer where
  | character (found : Option Char)
  | flag (holds : Bool)
  | number (n : Nat)
  | text (s : String)
deriving DecidableEq, Repr

/-- The answer to a call, and the cursor afterwards. -/
def call (c : Cursor) : Call → Answer × Cursor
  | .peek => (.character c.peek, c)
  | .advance => (.character c.advance.1, c.advance.2)
  | .accept expected => (.flag (c.accept expected).1, (c.accept expected).2)
  | .position => (.number c.position, c)
  | .atEnd => (.flag c.atEnd, c)
  | .remaining => (.text c.remaining, c)

/-- The answers to several calls, and the cursor after the last one. -/
def run (c : Cursor) : List Call → List Answer × Cursor
  | [] => ([], c)
  | first :: calls =>
    ((c.call first).1 :: ((c.call first).2.run calls).1, ((c.call first).2.run calls).2)

/-- Whether the call asks only. -/
def Call.isRead : Call → Bool
  | peek | position | atEnd | remaining => true
  | advance | accept _ => false

/-- Whether the answer says that the call could not be met. -/
def Call.failed : Call → Answer → Bool
  | advance, .character none => true
  | accept _, .flag false => true
  | _, _ => false

/-- The character read by a call, as the answer tells. -/
def Call.consumed : Call → Answer → List Char
  | advance, .character (some c) => [c]
  | accept expected, .flag true => [expected]
  | _, _ => []

/-- The characters read by several calls, in order. -/
def consumed (calls : List Call) (answers : List Answer) : List Char :=
  (List.zipWith Call.consumed calls answers).flatten

/-! ## §2 What calls read -/

theorem fst_advance (c : Cursor) : c.advance.1 = c.peek := by
  obtain ⟨position, rest⟩ := c
  cases rest <;> rfl

theorem advance_of_peek_none {c : Cursor} (h : c.peek = none) : c.advance.2 = c := by
  obtain ⟨position, rest⟩ := c
  cases rest with
  | nil => rfl
  | cons next rest => cases h

/-- A call reads the characters that its answer tells of, and nothing else. -/
theorem passes_call (c : Cursor) (first : Call) :
    c.Passes (first.consumed (c.call first).1) (c.call first).2 := by
  cases first with
  | advance =>
    have hread (found : Option Char) :
        Call.advance.consumed (.character found) = found.toList := by
      cases found <;> rfl
    simp only [call, fst_advance, hread]
    exact passes_advance c
  | accept expected =>
    simp only [call, accept]
    split
    next hpeek =>
      have hpasses := passes_advance c
      rw [hpeek] at hpasses
      exact hpasses
    next => exact .refl c
  -- The other calls ask only.
  | _ => exact .refl c

theorem passes_run (c : Cursor) (calls : List Call) :
    c.Passes (consumed calls (c.run calls).1) (c.run calls).2 := by
  induction calls generalizing c with
  | nil => exact .refl c
  | cons first calls ih => exact (passes_call c first).trans (ih (c.call first).2)

/-- Asking leaves the cursor where it is, and so does a call that could not be met. -/
theorem call_of_isRead_or_failed {c : Cursor} {first : Call}
    (h : first.isRead = true ∨ first.failed (c.call first).1 = true) : (c.call first).2 = c := by
  cases first with
  | advance =>
    apply advance_of_peek_none
    rw [← fst_advance]
    cases hfound : c.advance.1 with
    | none => rfl
    | some next => simp [Call.isRead, Call.failed, call, hfound] at h
  | accept expected =>
    simp only [call, accept]
    split
    next hpeek => simp [Call.isRead, Call.failed, call, accept, hpeek] at h
    next => rfl
  | _ => rfl

/-! ## §3 Cursors of a text -/

/-- Calls on a cursor neither lose nor repeat nor invent a character.

    After any calls on a new cursor, the characters read, put in front of what is left, are the
    text without its blanks.  The position is the number of characters read and never exceeds the
    length of that text; what is left is the text from there on, and the next character the one
    that stands there.  The cursor is at its end exactly when the position is the length, when there
    is no next character, and when nothing is left.  Questions, and calls that cannot be met, leave
    the cursor as it is. -/
theorem calls_consume_stripped_text (text : String) (calls : List Call) :
    let c := ((ofText text).run calls).2
    let read := consumed calls ((ofText text).run calls).1
    let stripped := text.toList.filter fun d => !Text.isBlank d
    String.ofList read ++ c.remaining = String.ofList stripped ∧
    c.position = read.length ∧
    c.position ≤ stripped.length ∧
    c.remaining = String.ofList (stripped.drop c.position) ∧
    c.peek = stripped[c.position]? ∧
    (c.atEnd = true ↔ stripped.length ≤ c.position) ∧
    (c.atEnd = true ↔ c.peek = none ∧ c.remaining = "") ∧
    (c.peek = none ↔ c.remaining = "") ∧
    (∀ next : Call, next.isRead = true ∨ next.failed (c.call next).1 = true →
      (c.call next).2 = c) := by
  intro c read stripped
  have hpasses : (ofText text).Passes read c := passes_run (ofText text) calls
  have hposition : c.position = read.length := by
    rw [hpasses.position_eq]
    exact Nat.zero_add _
  have hstripped : stripped = read ++ c.rest := hpasses.rest_eq
  -- The cursor's rest is determined by the text and the position alone.
  have hdrop : stripped.drop c.position = c.rest := by
    rw [hstripped, hposition, List.drop_left]
  have hnone : c.peek = none ↔ c.remaining = "" := by
    rw [peek, remaining, List.head?_eq_none_iff, ← String.toList_eq_nil_iff, String.toList_ofList]
  refine ⟨?_, hposition, ?_, ?_, ?_, ?_, ?_, hnone, ?_⟩
  · rw [remaining, ← String.ofList_append, hstripped]
  · rw [hstripped, hposition, List.length_append]
    exact Nat.le_add_right _ _
  · rw [hdrop, remaining]
  · rw [peek, ← hdrop, List.head?_drop]
  · rw [atEnd, ← hdrop, List.isEmpty_iff, List.drop_eq_nil_iff]
  · rw [atEnd_iff_peek, ← hnone, and_self]
  · intro next hnext
    exact call_of_isRead_or_failed hnext

/-- Blanks between two characters are gone, and a wrong guess in between does no harm. -/
theorem calls_consume_spaced_text :
    let c := ((ofText " 1\t+ 2").run [.peek, .advance, .accept '-', .atEnd, .accept '+']).2
    let wrong := Call.accept '3'
    wrong.failed (c.call wrong).1 = true ∧ (c.call wrong).2 = c ∧ c.position = 2 ∧
      "1+" ++ c.remaining = "1+2" := by
  intro c wrong
  have hfailed : wrong.failed (c.call wrong).1 = true := by decide
  obtain ⟨hread, hposition, -, -, -, -, -, -, hunchanged⟩ :=
    calls_consume_stripped_text " 1\t+ 2" [.peek, .advance, .accept '-', .atEnd, .accept '+']
  exact ⟨hfailed, hunchanged wrong (.inr hfailed), hposition, hread⟩

end BraceArith.Cursor
