import BraceArith.Explorer.State
import BraceArith.View.Bars
import BraceArith.View.Contents

/-!
# Frames of the explorer

A frame shows the whole explorer: the input line on top, the status bar at the bottom, and between
them the tree on the left, the graph above the history on the right.  Drawing settles the scroll
offsets and changes nothing else.
-/

namespace BraceArith

namespace View

open BraceArith.Screen

/-- Where everything stands on a screen. -/
structure Layout where
  /-- The input line. -/
  input : Area
  /-- The tree pane. -/
  tree : Area
  /-- The graph pane. -/
  graph : Area
  /-- The history pane. -/
  history : Area
  /-- The status bar. -/
  status : Area
deriving DecidableEq, Repr

/-- The layout of a screen of the given size.  The status bar comes before the input line where
    there are rows for one of them only. -/
def Layout.ofSize (width height : Nat) : Layout :=
  let (input, middle, status) := (Area.bounded 0 0 width height).splitEdges 3 1
  let (tree, right) := middle.splitColumns 55
  let (graph, history) := right.splitRows 60
  ⟨input, tree, graph, history, status⟩

/-- A drawn frame. -/
structure Frame where
  /-- Its cells. -/
  canvas : Canvas
  /-- Column and row of the terminal's cursor. -/
  cursor : Nat × Nat

end View

namespace Explorer

open BraceArith.View

/-- The newest graph description: that of the newest entry, if it has one. -/
def graphShown? (e : Explorer) : Option String :=
  match e.history.latest? with
  | some ⟨_, .ok report⟩ => some report.dot
  | _ => none

/-- The tree pane. -/
def treePane (e : Explorer) : Pane :=
  View.treePane e.history.latest? (e.focus = .tree)

/-- The graph pane. -/
def graphPane (e : Explorer) : Pane :=
  View.graphPane e.graphShown? (e.focus = .graph)

/-- The history pane. -/
def historyPane (e : Explorer) : Pane :=
  View.historyPane e.history (e.focus = .history)

/-- The offsets after a frame of the given size has been drawn. -/
def settledOffsets (e : Explorer) (width height : Nat) : Offsets :=
  let layout := Layout.ofSize width height
  { tree := e.treePane.settledOffset layout.tree.height e.offsets.tree
    graph := e.graphPane.settledOffset layout.graph.height e.offsets.graph
    history := e.historyPane.settledOffset layout.history.height e.offsets.history }

/-- The explorer after a frame of the given size has been drawn. -/
def settle (e : Explorer) (width height : Nat) : Explorer :=
  { e with offsets := e.settledOffsets width height }

/-- The frame on a screen of the given size. -/
def frame (e : Explorer) (width height : Nat) : Frame :=
  let layout := Layout.ofSize width height
  let canvas := Screen.Canvas.blank width height
  let canvas := e.treePane.draw layout.tree e.offsets.tree canvas
  let canvas := e.graphPane.draw layout.graph e.offsets.graph canvas
  let canvas := e.historyPane.draw layout.history e.offsets.history canvas
  let canvas := drawStatus layout.status e.status.message e.history.length e.status.isError canvas
  -- The input line comes last, so that the cursor ends up in it.
  let canvas := drawInput layout.input e.line.chars e.line.cursor canvas
  ⟨canvas, inputCursor layout.input e.line.cursor⟩

end Explorer

end BraceArith
