/-!
# Areas of a screen

A screen is divided into rectangles, and rectangles into rows and columns.  No rectangle has more
than `Area.mostCells` cells: one that is asked for with more is shrunk.

## Main definitions

- `Area`: a rectangle
- `Area.bounded`: a rectangle of the size asked for, or the largest of that shape
- `Area.clip`: the part of a rectangle that a screen shows
- `Area.splitColumns`, `Area.splitRows`, `Area.splitEdges`: the ways to divide a rectangle
-/

namespace BraceArith.Screen

/-- A rectangle of cells. -/
structure Area where
  /-- Column of the leftmost cells. -/
  x : Nat
  /-- Row of the topmost cells. -/
  y : Nat
  /-- Number of columns. -/
  width : Nat
  /-- Number of rows. -/
  height : Nat
deriving DecidableEq, Repr

namespace Area

/-- Whether the area has no cell. -/
def isEmpty (a : Area) : Bool :=
  a.width = 0 || a.height = 0

/-- Most cells that an area may have. -/
def mostCells : Nat := 65535

/-- The size of an area that is asked for as `width` by `height`.  One with too many cells keeps its
    shape as far as whole cells allow; both sides are found in floating point and cut. -/
def boundedSize (width height : Nat) : Nat × Nat :=
  if width * height ≤ mostCells then (width, height)
  else
    let shape := width.toFloat / height.toFloat
    let rows := (mostCells.toFloat / shape).sqrt
    ((rows * shape).toUInt64.toNat, rows.toUInt64.toNat)

/-- The area of the given size, shrunk if it has too many cells. -/
def bounded (x y width height : Nat) : Area :=
  let (width, height) := boundedSize width height
  ⟨x, y, width, height⟩

/-- The part of the area that lies on a screen of the given size. -/
def clip (a : Area) (width height : Nat) : Area :=
  ⟨a.x, a.y, min (a.x + a.width) width - a.x, min (a.y + a.height) height - a.y⟩

/-- The area less one cell on each side, and less `indent` further columns on the left. -/
def inside (a : Area) (indent : Nat) : Area :=
  ⟨a.x + 1 + indent, a.y + 1, a.width - 2 - indent, a.height - 2⟩

/-- `percent` hundredths of `n`, a half rounded up. -/
def share (percent n : Nat) : Nat :=
  (n * percent + 50) / 100

/-- Two areas side by side, the left one with its share of the columns. -/
def splitColumns (a : Area) (percent : Nat) : Area × Area :=
  let first := share percent a.width
  (⟨a.x, a.y, first, a.height⟩, ⟨a.x + first, a.y, a.width - first, a.height⟩)

/-- Two areas one above the other, the upper one with its share of the rows. -/
def splitRows (a : Area) (percent : Nat) : Area × Area :=
  let first := share percent a.height
  (⟨a.x, a.y, a.width, first⟩, ⟨a.x, a.y + first, a.width, a.height - first⟩)

/-- Three areas one above the other: `top` rows, what is left, and `bottom` rows.  Where there are
    too few rows, the lowest area gets its rows first and the uppermost area comes next. -/
def splitEdges (a : Area) (top bottom : Nat) : Area × Area × Area :=
  let bottom := min bottom a.height
  let top := min top (a.height - bottom)
  let middle := a.height - top - bottom
  (⟨a.x, a.y, a.width, top⟩, ⟨a.x, a.y + top, a.width, middle⟩,
    ⟨a.x, a.y + top + middle, a.width, bottom⟩)

end Area

end BraceArith.Screen
