import BraceArith.Expr.Basic
import BraceArith.Text.Offset

/-!
# Indented drawings of a tree

A drawing has one line for each node, a parent above its children and the left child's lines above
the right one's.  Each line is the node's label behind a guide of box-drawing characters, four to
a level:

```text
*
├── +
│   ├── 1
│   └── 2
└── 3
```

## Main definitions

- `Side`: which child of its parent a node is
- `Expr.drawing`: the lines
- `splitGuide`: a line's guide and label, told apart by the line's characters alone
- `splitGuide?`: the same, for a line that is cut at a byte
-/

namespace BraceArith

/-! ## §1 Guides -/

/-- Which child of its parent a node is. -/
inductive Side where
  /-- The left child, drawn first. -/
  | left
  /-- The right child, drawn last. -/
  | right
deriving DecidableEq, Repr

/-- The last four characters of the guide of a node on this side. -/
def Side.branch : Side → String
  | left => "├── "
  | right => "└── "

/-- The four characters that a node on this side adds to the guides below it: a line down to its
    sibling, or nothing if none follows. -/
def Side.rail : Side → String
  | left => "│   "
  | right => "    "

/-! ## §2 Drawings -/

namespace Expr

/-- The lines of the nodes below the root, where `rails` stands before each guide. -/
def branches (rails : String) : Expr → List String
  | literal _ => []
  | binary _ l r =>
    (rails ++ Side.left.branch ++ l.label) :: l.branches (rails ++ Side.left.rail) ++
      (rails ++ Side.right.branch ++ r.label) :: r.branches (rails ++ Side.right.rail)

/-- The drawing's lines, from top to bottom. -/
def drawing (t : Expr) : List String :=
  t.label :: t.branches ""

/-- The drawing has one line for each node. -/
theorem length_branches (t : Expr) (rails : String) :
    (t.branches rails).length + 1 = t.nodeCount := by
  induction t generalizing rails with
  | literal _ => rfl
  | binary _ l r ihl ihr =>
    have hl := ihl (rails ++ Side.left.rail)
    have hr := ihr (rails ++ Side.right.rail)
    simp only [branches, nodeCount, List.length_append, List.length_cons]
    omega

end Expr

/-! ## §3 Telling guide and label apart -/

/-- Whether `c` is one of the characters that guides are made of. -/
def isGuideChar (c : Char) : Bool :=
  c = '│' || c = '├' || c = '└' || c = '─' || c = ' '

/-- The guide at the start of a drawn line, and the label after it. -/
def splitGuide (line : List Char) : List Char × List Char :=
  (line.takeWhile isGuideChar, line.dropWhile isGuideChar)

/-- Guide and label make up the line. -/
theorem splitGuide_append (line : List Char) :
    (splitGuide line).1 ++ (splitGuide line).2 = line :=
  List.takeWhile_append_dropWhile

/-- The byte at which the guide of a drawn line ends: where the first character stands that guides
    are not made of, or at the end of the line. -/
def guideEnd (line : String) : Nat :=
  (Text.firstOffsetWhere? line fun c => !isGuideChar c).getD line.utf8ByteSize

/-- The guide at the start of a drawn line, and the label after it, unless the cut between them is
    inside a character. -/
def splitGuide? (line : String) : Option (String × String) :=
  Text.cutAt? line (guideEnd line)

theorem guideEnd_eq (line : String) :
    guideEnd line = (String.ofList (splitGuide line.toList).1).utf8ByteSize := by
  rw [guideEnd, Text.getD_firstOffsetWhere?]
  simp only [Bool.not_not]
  rfl

/-- The cut is never inside a character, whatever the line. -/
theorem splitGuide?_eq (line : String) :
    splitGuide? line = some
      (String.ofList (splitGuide line.toList).1, String.ofList (splitGuide line.toList).2) := by
  have htext : String.ofList (splitGuide line.toList).1 ++
      String.ofList (splitGuide line.toList).2 = line := by
    rw [← String.ofList_append, splitGuide_append, String.ofList_toList]
  have hcut := Text.cutAt?_append (String.ofList (splitGuide line.toList).1)
    (String.ofList (splitGuide line.toList).2)
  rw [htext] at hcut
  rw [splitGuide?, guideEnd_eq, hcut]

/-- Four characters of a guide, ten bytes. -/
example : guideEnd "└── 7" = 10 ∧ splitGuide? "└── 7" = some ("└── ", "7") := by decide +kernel

/-- Whether a label is written with digits and points alone, as a number that is not negative and
    not infinite is. -/
def isPlainNumber (label : List Char) : Bool :=
  label.all fun c => c.isDigit || c = '.'

end BraceArith
