import BraceArith.Disk.Path

/-!
# Disks

A disk holds directories and files with texts.  Writing a text to a path either replaces the whole
content of the file that the path leads to, creating it where there is none, or fails for a stated
reason and changes nothing.

## Main definitions

- `Disk`: directories, files, and places that keep nothing or refuse to be written
- `Disk.locate`: the file that a path leads to
- `Disk.write`, `Disk.read?`: replace and look up a content
- `Saving`: a result that may wait for a text to be written
-/

namespace BraceArith

/-! ## §1 Data -/

/-- Why a text could not be written. -/
inductive WriteFault where
  /-- A directory on the way does not exist, or the path is empty. -/
  | notFound
  /-- Something on the way is a file. -/
  | notDirectory
  /-- The path leads to a directory. -/
  | isDirectory
  /-- A name, or the whole path, is longer than a disk can hold. -/
  | nameTooLong
  /-- The path holds the character that ends texts inside the system. -/
  | containsNul
  /-- The place refuses to be written, in its own words. -/
  | refused (reason : String)
deriving DecidableEq, Repr

/-- The fault in words, with the system's number for it. -/
def WriteFault.message : WriteFault → String
  | notFound => "No such file or directory (os error 2)"
  | notDirectory => "Not a directory (os error 20)"
  | isDirectory => "Is a directory (os error 21)"
  | nameTooLong => "File name too long (os error 36)"
  | containsNul => "file name contained an unexpected NUL byte"
  | refused reason => reason

/-- A disk. -/
structure Disk where
  /-- The directory that relative paths start from. -/
  current : Disk.Place := []
  /-- The directories, the root apart. -/
  directories : List Disk.Place := []
  /-- The files with their contents. -/
  files : List (Disk.Place × String) := []
  /-- Files that stay empty, whatever is written to them. -/
  sinks : List Disk.Place := []
  /-- Places that refuse to be written, with their reasons. -/
  refusals : List (Disk.Place × String) := []
deriving DecidableEq, Repr

namespace Disk

/-! ## §2 Finding a file -/

/-- Most bytes that a name may have. -/
def longestName : Nat := 255

/-- Least number of bytes that is too much for a path. -/
def pathLimit : Nat := 4096

/-- Whether `name` has more bytes than a name may have. -/
def isTooLong (name : String) : Bool :=
  longestName < name.utf8ByteSize

/-- Whether there is a directory at `place`. -/
def isDirectory (d : Disk) (place : Place) : Bool :=
  place.isEmpty || d.directories.contains place

/-- The content of the file at `place`. -/
def contentAt? (d : Disk) (place : Place) : Option String :=
  if d.sinks.contains place then some "" else d.files.lookup place

/-- Whether there is anything at `place` but a directory. -/
def isFile (d : Disk) (place : Place) : Bool :=
  (d.contentAt? place).isSome || (d.refusals.lookup place).isSome

/-- Walks from the directory `place` along `names`; the last one names a file. -/
def walk (d : Disk) (wantsDirectory : Bool) (place : Place) :
    List String → Except WriteFault Place
  | [] => .error .isDirectory
  | [last] =>
    -- A slash at the end asks for a directory even where there is a file.
    if last = "." || last = ".." || wantsDirectory then .error .isDirectory
    else if isTooLong last then .error .nameTooLong
    else if d.isDirectory (place ++ [last]) then .error .isDirectory
    else .ok (place ++ [last])
  | name :: names =>
    -- Everything before the last name has to be a directory.
    if name = "." then d.walk wantsDirectory place names
    else if name = ".." then d.walk wantsDirectory place.dropLast names
    else if isTooLong name then .error .nameTooLong
    else if d.isDirectory (place ++ [name]) then d.walk wantsDirectory (place ++ [name]) names
    else if d.isFile (place ++ [name]) then .error .notDirectory
    else .error .notFound

/-- The place of the file that a path leads to, whether or not there is a file yet. -/
def locate (d : Disk) (path : String) : Except WriteFault Place :=
  if path.toList.contains '\x00' then .error .containsNul
  else if path.isEmpty then .error .notFound
  else if pathLimit ≤ path.utf8ByteSize then .error .nameTooLong
  else
    let p := Path.ofText path
    d.walk p.wantsDirectory (if p.absolute then [] else d.current) p.names

/-! ## §3 Reading and writing -/

/-- The content of the file that a path leads to. -/
def read? (d : Disk) (path : String) : Option String :=
  match d.locate path with
  | .ok place => d.contentAt? place
  | .error _ => none

/-- The disk with `text` as the whole content of the file at `place`.  A sink keeps nothing. -/
def put (d : Disk) (place : Place) (text : String) : Disk :=
  if d.sinks.contains place then d
  else { d with files := (place, text) :: d.files.filter fun file => file.1 ≠ place }

/-- Replaces the content of the file that a path leads to. -/
def write (d : Disk) (path text : String) : Except WriteFault Disk :=
  match d.locate path with
  | .error fault => .error fault
  | .ok place =>
    match d.refusals.lookup place with
    | some reason => .error (.refused reason)
    | none => .ok (d.put place text)

/-- The files below the current directory, with the paths that lead to them. -/
def listing (d : Disk) : List (String × String) :=
  d.files.filterMap fun (place, content) =>
    if d.current.isPrefixOf place then
      some ("/".intercalate (place.drop d.current.length), content)
    else none

end Disk

/-! ## §4 Results that wait for a file -/

/-- A result that may wait for a text to be written.  It says what is to be written where, and
    leaves the writing to a disk or to the system. -/
inductive Saving (α : Type) where
  /-- A result without any writing. -/
  | done (result : α)
  /-- The result once it is known whether `text` could be written to `path`. -/
  | write (path text : String) (result : Option WriteFault → α)

/-- The result on a disk, and the disk afterwards.  A disk that could not be written to stays as it
    was. -/
def Saving.onDisk {α : Type} (disk : Disk) : Saving α → α × Disk
  | done result => (result, disk)
  | write path text result =>
    match disk.write path text with
    | .ok disk => (result none, disk)
    | .error fault => (result (some fault), disk)

end BraceArith
