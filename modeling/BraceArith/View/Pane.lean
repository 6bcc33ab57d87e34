import BraceArith.Screen.Canvas
import BraceArith.View.Palette

/-!
# Scrolled panes

A pane shows a window of its lines inside a border.  The window starts at the pane's offset, which
is pulled back before drawing so that the window never runs past the last line.  A pane without
content shows a remark instead and leaves its offset alone.

## Main definitions

- `visibleRows`, `clampOffset`, `window`: the rules of scrolling
- `Pane`: a pane ready to be drawn
- `Pane.settledOffset`: its offset after drawing
- `Pane.draw`: draws it
-/

namespace BraceArith.View

open BraceArith.Screen

/-! ## §1 Scrolling -/

/-- Number of lines that a pane of the given height shows; never less than one. -/
def visibleRows (height : Nat) : Nat :=
  max 1 (height - 2)

/-- The offset pulled back so that the last window is full. -/
def clampOffset (offset total visible : Nat) : Nat :=
  min offset (total - visible)

/-- The `visible` lines from `offset` on. -/
def window {α : Type} (offset visible : Nat) (lines : List α) : List α :=
  (lines.drop offset).take visible

/-! ## §2 Panes -/

/-- What a pane shows. -/
inductive Body where
  /-- A remark in place of content. -/
  | remark (text : String)
  /-- Lines to scroll over, `indent` columns from the border. -/
  | lines (indent : Nat) (flow : Canvas.Flow) (content : List Line)

/-- A pane ready to be drawn. -/
structure Pane where
  /-- The title in its border. -/
  title : String
  /-- Whether scrolling keys move it. -/
  focused : Bool
  /-- What it shows. -/
  body : Body

namespace Pane

/-- The offset after drawing with the given height. -/
def settledOffset (p : Pane) (height offset : Nat) : Nat :=
  match p.body with
  | .remark _ => offset
  | .lines _ _ content => clampOffset offset content.length (visibleRows height)

/-- The lines that a pane of the given height shows. -/
def shown (p : Pane) (height offset : Nat) : List Line :=
  match p.body with
  | .remark text => [[⟨text.toList, {}⟩]]
  | .lines _ _ content => window (p.settledOffset height offset) (visibleRows height) content

/-- Draws the pane into an area.  A remark is written in the colour of captions. -/
def draw (p : Pane) (area : Area) (offset : Nat) (canvas : Canvas) : Canvas :=
  let shown := p.shown area.height offset
  let frame (canvas : Canvas) : Canvas := canvas.border area p.title (Palette.border p.focused)
  match p.body with
  | .remark _ =>
    -- The border's own colour covers the caption colour laid over the whole area.
    (frame (canvas.restyle area (.ink Palette.comment))).drawLines (area.inside 0) shown
  | .lines indent flow _ => (frame canvas).drawLines (area.inside indent) shown flow

end Pane

end BraceArith.View
