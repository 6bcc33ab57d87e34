/-!
# Lines of a text

A text falls into lines at every line feed.  A carriage return directly before the line feed
belongs to the line end, and a line feed at the very end of the text starts no further line, so
that a text of `n` terminated lines has exactly `n` of them.
-/

namespace BraceArith.Text

/-- The line without the carriage return that ends it, if one does. -/
def dropReturn (line : List Char) : List Char :=
  if line.getLast? = some '\r' then line.dropLast else line

/-- Splits at line feeds.  `pending` holds the current line's characters, last one first; the
    characters after the last line feed are a line only if there are any, and keep a carriage
    return at their end. -/
def splitLines (pending : List Char) : List Char → List (List Char)
  | [] => if pending.isEmpty then [] else [pending.reverse]
  | c :: rest =>
    if c = '\n' then dropReturn pending.reverse :: splitLines [] rest
    else splitLines (c :: pending) rest

/-- The lines of `text`, without their ends. -/
def lines (text : String) : List (List Char) :=
  splitLines [] text.toList

theorem splitLines_append {line : List Char} (h : '\n' ∉ line) (pending rest : List Char) :
    splitLines pending (line ++ rest) = splitLines (line.reverse ++ pending) rest := by
  induction line generalizing pending with
  | nil => rfl
  | cons c line ih =>
    have hc : c ≠ '\n' := fun heq => h (heq ▸ List.mem_cons_self)
    have hline : '\n' ∉ line := fun hmem => h (List.mem_cons_of_mem c hmem)
    simp [splitLines, hc, ih hline]

/-- What is ended by a line feed, with no carriage return before it, is the first line. -/
theorem lines_append_newline {line : String} (h : '\n' ∉ line.toList)
    (hreturn : line.toList.getLast? ≠ some '\r') (rest : String) :
    lines (line ++ "\n" ++ rest) = line.toList :: lines rest := by
  have hfeed : "\n".toList = ['\n'] := by decide
  simp only [lines, String.toList_append, hfeed, List.append_assoc]
  rw [splitLines_append h]
  simp [splitLines, dropReturn, hreturn]

/-- A text whose last line is terminated has no empty line after it. -/
example : lines "a\r\n\nb\n" = [['a'], [], ['b']] := by decide

end BraceArith.Text
