import BraceArith.Screen.Area
import BraceArith.Screen.Style
import BraceArith.Text.Width

/-!
# Canvases

A canvas is the grid of cells that one frame is drawn on.  It starts blank, and everything drawn
later covers what was there before.  What is drawn beyond its edges is lost.

## Main definitions

- `Canvas`: the grid
- `Canvas.border`: a frame of box-drawing characters with a title
- `Canvas.drawLine`: a line of styled text, cut at the area's width
- `Canvas.drawSpans`: a line whose spans each have a place of their own
-/

namespace BraceArith.Screen

/-! ## §1 Cells -/

/-- One cell. -/
structure Cell where
  /-- The cluster it shows. -/
  symbol : String := " "
  /-- What it looks like. -/
  style : Style := {}
deriving DecidableEq, Repr

/-- A grid of cells. -/
structure Canvas where
  /-- Number of columns. -/
  width : Nat
  /-- Number of rows. -/
  height : Nat
  /-- The cells, row after row. -/
  cells : Array Cell
  /-- There is a cell for each column of each row. -/
  size_cells : cells.size = width * height

namespace Canvas

/-- A canvas of blank cells, of the size asked for or the largest of that shape. -/
def blank (width height : Nat) : Canvas :=
  let (width, height) := Area.boundedSize width height
  ⟨width, height, Array.replicate (width * height) {}, Array.size_replicate⟩

/-- Changes the cell in column `x` of row `y`, if there is one. -/
def modify (c : Canvas) (x y : Nat) (f : Cell → Cell) : Canvas :=
  if x < c.width then
    { c with
      cells := c.cells.modify (y * c.width + x) f
      size_cells := by rw [Array.size_modify, c.size_cells] }
  else c

/-- The part of the area that lies on the canvas. -/
def clip (c : Canvas) (area : Area) : Area :=
  area.clip c.width c.height

/-- A row as a reader sees it: a symbol of double width hides the cell on its right, whatever that
    cell holds. -/
def visible : List Cell → List Cell
  | [] => []
  | cell :: rest =>
    let hides (left : Cell) : Bool := 2 ≤ Text.textWidth left.symbol.toList
    cell :: (rest.zip (cell :: rest)).map fun (right, left) => if hides left then {} else right

/-- The rows as a reader sees them, from top to bottom. -/
def rows (c : Canvas) : List (List Cell) :=
  (List.range c.height).map fun y =>
    visible (c.cells.extract (y * c.width) ((y + 1) * c.width)).toList

/-! ## §2 Filling -/

/-- Lays `style` over every cell of the area. -/
def restyle (c : Canvas) (area : Area) (style : Style) : Canvas :=
  let area := c.clip area
  (List.range area.height).foldl (fun c dy =>
    (List.range area.width).foldl (fun c dx =>
      c.modify (area.x + dx) (area.y + dy) fun cell =>
        { cell with style := style.layer cell.style }) c) c

/-- Shows `symbol` in the cell in column `x` of row `y`, `style` laid over what it looked like. -/
def put (c : Canvas) (x y : Nat) (symbol : String) (style : Style) : Canvas :=
  c.modify x y fun cell => ⟨symbol, style.layer cell.style⟩

/-- Shows `symbol` in each of the given cells. -/
def putAll (c : Canvas) (places : List (Nat × Nat)) (symbol : String) (style : Style) : Canvas :=
  places.foldl (fun c (x, y) => c.put x y symbol style) c

/-- Adds `symbol` to what the cell in column `x` of row `y` shows. -/
def attach (c : Canvas) (x y : Nat) (symbol : String) (style : Style) : Canvas :=
  c.modify x y fun cell => ⟨cell.symbol ++ symbol, style.layer cell.style⟩

/-- Makes `count` cells of row `y` blank, from column `x` on. -/
def erase (c : Canvas) (x y count : Nat) : Canvas :=
  (List.range count).foldl (fun c dx => c.modify (x + dx) y fun _ => {}) c

/-! ## §3 Text -/

/-- The clusters of a line that fit into `width` columns, each with its column.  A cluster wider
    than the whole width is left out; the first other one that does not fit ends the line. -/
def fit (width column : Nat) : List (List Char × Style) → List (Nat × List Char × Style)
  | [] => []
  | (cluster, style) :: rest =>
    let w := Text.textWidth cluster
    if width < w then fit width column rest
    else if width < column + w then []
    else (column, cluster, style) :: fit width (column + w) rest

/-- Where a line stands in its area. -/
inductive Alignment where
  /-- At the left edge. -/
  | left
  /-- At the right edge. -/
  | right
deriving DecidableEq, Repr

/-- First column of a line whose fitting clusters are `placed`. -/
def Alignment.start (a : Alignment) (width : Nat) (placed : List (Nat × List Char × Style)) :
    Nat :=
  match a with
  | left => 0
  | right => width - placed.foldl (fun cells item => cells + Text.textWidth item.2.1) 0

/-- Shows clusters in row `y`, each in its column counted from column `x`.  One that covers no cell
    is not shown, and one that covers several changes only the first of them. -/
def putClusters (c : Canvas) (x y : Nat) (placed : List (Nat × List Char × Style)) : Canvas :=
  placed.foldl (fun c (column, cluster, style) =>
    if Text.textWidth cluster = 0 then c
    else c.put (x + column) y (String.ofList cluster) style) c

/-- Draws a line in row `row` of the area, cluster after cluster. -/
def drawLine (c : Canvas) (area : Area) (row : Nat) (line : Line) (align : Alignment := .left) :
    Canvas :=
  let placed := fit area.width 0 line.clusters
  c.putClusters (area.x + align.start area.width placed) (area.y + row) placed

/-- Draws the clusters of a span in row `y` from column `x` on and left of column `right`.  The
    span began in column `start`, and `first` says whether any of its clusters has been drawn.  A
    cluster that covers no cell is added to the one before it, and a cluster is added to the
    span's first cell as long as nothing there covers it; all cells that a cluster covers after its
    first become blank. -/
def drawClusters (y start right : Nat) (style : Style) (c : Canvas) (x : Nat) (first : Bool) :
    List (List Char) → Canvas
  | [] => c
  | cluster :: rest =>
    let w := Text.textWidth cluster
    let symbol := String.ofList cluster
    if right < x + w then c
    else
      let c :=
        if first then c.put x y symbol style
        else if x = start then c.attach x y symbol style
        else if w = 0 then c.attach (x - 1) y symbol style
        else c.put x y symbol style
      drawClusters y start right style (c.erase (x + 1) y (w - 1)) (x + w) false rest

/-- Draws the spans of a line in row `y` from column `x` on and left of column `right`.  Each span
    takes as many columns as its whole text covers, whatever its clusters cover one by one. -/
def drawSpans (y right : Nat) (c : Canvas) (x : Nat) : Line → Canvas
  | [] => c
  | span :: rest =>
    let w := Text.textWidth span.chars
    if w = 0 then drawSpans y right c x rest
    else if right ≤ x then c
    else drawSpans y right (drawClusters y x right span.style c x true span.clusters) (x + w) rest

/-- How the lines of a text are laid out. -/
inductive Flow where
  /-- Cluster after cluster, across spans. -/
  | clusters
  /-- Each span in a place of its own. -/
  | spans
deriving DecidableEq, Repr

/-- Draws a line in row `row` of the area. -/
def drawRow (c : Canvas) (area : Area) (flow : Flow) (row : Nat) (line : Line) : Canvas :=
  match flow with
  | .clusters => c.drawLine area row line
  | .spans => drawSpans (area.y + row) (min (area.x + area.width) c.width) c area.x line

/-- Draws lines from the top of the area; those beyond its last row are dropped. -/
def drawLines (c : Canvas) (area : Area) (lines : List Line) (flow : Flow := .clusters) : Canvas :=
  if area.isEmpty then c
  else
    (lines.take area.height).zipIdx.foldl (fun c (line, row) => c.drawRow area flow row line) c

/-! ## §4 Frames -/

/-- Draws a frame around the part of the area that is on the canvas, with a title in its upper side.
    Where sides and corners share a cell, the upper left corner comes last. -/
def border (c : Canvas) (area : Area) (title : String) (style : Style) : Canvas :=
  let area := c.clip area
  if area.isEmpty then c
  else
    let right := area.x + area.width - 1
    let bottom := area.y + area.height - 1
    let columns := (List.range area.width).map (area.x + ·)
    let rows := (List.range area.height).map (area.y + ·)
    -- The four sides first.
    let c := c.putAll (rows.map (area.x, ·)) "│" style
    let c := c.putAll (columns.map (·, area.y)) "─" style
    let c := c.putAll (rows.map (right, ·)) "│" style
    let c := c.putAll (columns.map (·, bottom)) "─" style
    -- Then the corners, which cover the ends of the sides.
    let c := c.put right bottom "┘" style
    let c := c.put right area.y "┐" style
    let c := c.put area.x bottom "└" style
    let c := c.put area.x area.y "┌" style
    -- The title has no style of its own and keeps the border's.
    c.drawLine ⟨area.x + 1, area.y, area.width - 2, 1⟩ 0 [⟨title.toList, {}⟩]

end Canvas

end BraceArith.Screen
