import BraceArith.Session.Report

/-!
# History of submitted lines

A history keeps every submitted line with its outcome, oldest first.  Lines that differ in blanks
alone have the same outcome, so a line whose stripped text was seen before takes over the outcome
of the entry that first had it.  A recall position walks over the entries, as the arrow keys of a
line editor do.

## Main definitions

- `Entry`, `History`: the data
- `History.submit`: adds a line
- `History.recallPrevious`, `History.recallNext`: move the recall position
-/

namespace BraceArith

/-! ## §1 Data -/

/-- A submitted line and what came of it. -/
structure Entry where
  /-- The line as it was submitted. -/
  input : String
  /-- What came of it. -/
  outcome : Outcome

/-- Whether the entry's line started with an expression. -/
def Entry.isOk (e : Entry) : Bool :=
  e.outcome.isOk

/-- Submitted lines, oldest first. -/
structure History where
  /-- One entry for each submitted line. -/
  entries : List Entry := []
  /-- For each stripped text, the number of the entry that first had it. -/
  cache : List (String × Nat) := []
  /-- Number of the entry that is being recalled; none while a fresh line is edited. -/
  recalling : Option Nat := none

namespace History

/-- The text by which lines are told apart. -/
def key (line : String) : String :=
  String.ofList (Text.strip line)

/-! ## §2 Submitting -/

/-- Number of the first entry whose line has the same stripped text. -/
def firstIndex? (h : History) (line : String) : Option Nat :=
  h.cache.lookup (key line)

/-- The outcome of a line, taken over from an earlier entry where there is one. -/
def outcomeOf (h : History) (line : String) : Outcome :=
  match (h.firstIndex? line).bind fun i => h.entries[i]? with
  | some entry => entry.outcome.withInput line
  | none => analyze line

/-- Adds a line and ends recall. -/
def submit (h : History) (line : String) : History where
  entries := h.entries ++ [⟨line, h.outcomeOf line⟩]
  cache :=
    match h.firstIndex? line with
    | some _ => h.cache
    | none => h.cache ++ [(key line, h.entries.length)]
  recalling := none

/-! ## §3 Counts -/

/-- Number of submitted lines. -/
def length (h : History) : Nat :=
  h.entries.length

/-- Whether nothing has been submitted. -/
def isEmpty (h : History) : Bool :=
  h.entries.isEmpty

/-- The newest entry. -/
def latest? (h : History) : Option Entry :=
  h.entries.getLast?

/-- Number of different lines, blanks aside. -/
def distinct (h : History) : Nat :=
  h.cache.length

/-- Number of submitted lines that gave a syntax error. -/
def failed (h : History) : Nat :=
  h.entries.countP fun e => !e.isOk

/-! ## §4 Recall -/

/-- Whether an old line is being recalled. -/
def isRecalling (h : History) : Bool :=
  h.recalling.isSome

/-- The line that is being recalled. -/
def recalled? (h : History) : Option String :=
  (h.recalling.bind fun i => h.entries[i]?).map Entry.input

/-- Steps back: from a fresh line to the newest entry, from an entry to the one before it.  The
    oldest entry has none before it. -/
def recallPrevious (h : History) : History :=
  if h.isEmpty then h
  else
    match h.recalling with
    | none => { h with recalling := some (h.entries.length - 1) }
    | some i => { h with recalling := some (i - 1) }

/-- Steps forward: from an entry to the one after it, from the newest to a fresh line. -/
def recallNext (h : History) : History :=
  match h.recalling with
  | none => h
  | some i =>
    if i + 1 < h.entries.length then { h with recalling := some (i + 1) }
    else { h with recalling := none }

end History

end BraceArith
