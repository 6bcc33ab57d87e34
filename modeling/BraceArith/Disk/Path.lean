/-!
# Paths

A path is a text that leads from the root of a disk, or from the current directory, over names
divided by slashes to a file.  Empty names count for nothing, `.` stays where it is and `..` goes
up; a slash at the end says that a directory is meant.
-/

namespace BraceArith.Disk

/-- A place on a disk: the names that lead to it from the root. -/
abbrev Place := List String

/-- A path taken apart. -/
structure Path where
  /-- Whether the path starts at the root. -/
  absolute : Bool
  /-- The names along the way, empty ones left out. -/
  names : List String
  /-- Whether a slash at the end asks for a directory. -/
  wantsDirectory : Bool
deriving DecidableEq, Repr

/-- Cuts at every slash.  `pending` holds the current name's characters, last one first. -/
def splitSlashes (pending : List Char) : List Char → List String
  | [] => [String.ofList pending.reverse]
  | c :: rest =>
    if c = '/' then String.ofList pending.reverse :: splitSlashes [] rest
    else splitSlashes (c :: pending) rest

/-- Takes a path apart. -/
def Path.ofText (text : String) : Path where
  absolute := text.toList.head? = some '/'
  names := (splitSlashes [] text.toList).filter (· ≠ "")
  wantsDirectory := text.toList.getLast? = some '/'

/-- Dots and doubled slashes are kept apart from names. -/
example : Path.ofText "./a//b/" = ⟨false, [".", "a", "b"], true⟩ := by decide +kernel

end BraceArith.Disk
