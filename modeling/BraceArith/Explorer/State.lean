import BraceArith.Explorer.EditLine
import BraceArith.Explorer.Key
import BraceArith.Session.Evaluation
import BraceArith.Session.History

/-!
# The explorer

The explorer is an interactive session: lines are edited and submitted, each successful one has
its graph description written to the output file, and three panes show what came of it.

A key press changes the explorer and, if it submits a line, perhaps the disk.  What the panes show
is a matter of drawing and has no influence on what keys do.

## Main definitions

- `Focus`, `Offsets`, `Status`: parts of the state
- `Explorer`: the state
- `Explorer.submission`, `Explorer.submit`: submits the line being edited
- `Explorer.press`, `Explorer.run`: one key press, and many
-/

namespace BraceArith

namespace Explorer

/-! ## §1 Panes -/

/-- The pane that scrolling keys move. -/
inductive Focus where
  /-- The drawing of the newest tree. -/
  | tree
  /-- Its graph description. -/
  | graph
  /-- The submitted lines. -/
  | history
deriving DecidableEq, Repr

/-- The next pane in turn. -/
def Focus.next : Focus → Focus
  | tree => graph
  | graph => history
  | history => tree

/-- The pane before in turn. -/
def Focus.previous : Focus → Focus
  | tree => history
  | graph => tree
  | history => graph

/-- The largest scroll offset; it stands for the end of whatever is shown. -/
def offsetLimit : Nat := UInt64.size - 1

/-- First row that each pane shows. -/
structure Offsets where
  /-- Of the tree pane. -/
  tree : Nat := 0
  /-- Of the graph pane. -/
  graph : Nat := 0
  /-- Of the history pane. -/
  history : Nat := 0
deriving DecidableEq, Repr

namespace Offsets

/-- Changes the offset of one pane. -/
def modify (o : Offsets) (f : Nat → Nat) : Focus → Offsets
  | .tree => { o with tree := f o.tree }
  | .graph => { o with graph := f o.graph }
  | .history => { o with history := f o.history }

/-- After a submission: the new tree and graph from their top, the history at its end. -/
def afterSubmit : Offsets where
  history := offsetLimit

end Offsets

/-! ## §2 Status -/

/-- What the status bar says. -/
inductive Status where
  /-- Nothing has been submitted. -/
  | ready
  /-- The graph description was written to this path. -/
  | written (path : String)
  /-- The graph description could not be written to this path. -/
  | notWritten (path : String) (fault : WriteFault)
  /-- The line started with no expression. -/
  | rejected (error : SyntaxError)
deriving DecidableEq, Repr

/-- The status in words. -/
def Status.message : Status → String
  | ready => "Ready!"
  | written path => Response.writtenTo path
  | notWritten path fault => "Failed to write " ++ path ++ ": " ++ fault.message
  | rejected error => "Error: " ++ error.display

/-- Whether the status tells of a failure. -/
def Status.isError : Status → Bool
  | ready | written _ => false
  | notWritten _ _ | rejected _ => true

end Explorer

/-! ## §3 State -/

/-- The state of an explorer. -/
structure Explorer where
  /-- Where graph descriptions are written. -/
  outputPath : String
  /-- Every line submitted so far. -/
  history : History := {}
  /-- The line being edited. -/
  line : Explorer.EditLine := {}
  /-- The pane that scrolling keys move. -/
  focus : Explorer.Focus := .tree
  /-- First row that each pane shows. -/
  offsets : Explorer.Offsets := {}
  /-- Whether the session is to end. -/
  quit : Bool := false
  /-- What the status bar says. -/
  status : Explorer.Status := .ready

namespace Explorer

/-- The explorer once the line being edited has gone into the history, with the given status. -/
def accept (e : Explorer) (status : Status) : Explorer :=
  { e with
    history := e.history.submit e.line.text
    line := {}
    offsets := .afterSubmit
    status := status }

/-- The explorer once the line being edited has been submitted.  A line of blanks is left alone. -/
def submission (e : Explorer) : Saving Explorer :=
  if Text.isBlankLine e.line.text then .done e
  else
    match e.history.outcomeOf e.line.text with
    | .error error => .done (e.accept (.rejected error))
    | .ok report =>
      .write e.outputPath (Graph.document report.tree) fun
        | none => e.accept (.written e.outputPath)
        | some fault => e.accept (.notWritten e.outputPath fault)

/-- Submits the line being edited. -/
def submit (e : Explorer) (disk : Disk) : Explorer × Disk :=
  e.submission.onDisk disk

/-! ## §4 Keys -/

/-- Shows the line before the one being recalled, or the newest one; with nothing submitted, the
    line stays. -/
def recallPrevious (e : Explorer) : Explorer :=
  let history := e.history.recallPrevious
  match history.recalled? with
  | some line => { e with history := history, line := .ofText line }
  | none => { e with history := history }

/-- While recalling, shows the line after the one being recalled, or an empty one past the newest.
    A fresh line stays. -/
def recallNext (e : Explorer) : Explorer :=
  if e.history.isRecalling then
    let history := e.history.recallNext
    { e with history := history, line := .ofText (history.recalled?.getD "") }
  else e

/-- The effect of a key that neither submits nor ends anything. -/
def handle (e : Explorer) : Key → Explorer
  | .character c => { e with line := e.line.insert c }
  | .backspace => { e with line := e.line.backspace }
  | .delete => { e with line := e.line.delete }
  | .left => { e with line := e.line.left }
  | .right => { e with line := e.line.right }
  | .home => { e with line := e.line.home }
  | .lineEnd => { e with line := e.line.toEnd }
  | .up => e.recallPrevious
  | .down => e.recallNext
  | .tab => { e with focus := e.focus.next }
  | .backTab => { e with focus := e.focus.previous }
  | .pageUp => { e with offsets := e.offsets.modify (· - 1) e.focus }
  | .pageDown => { e with offsets := e.offsets.modify (fun o => min (o + 1) offsetLimit) e.focus }
  | .escape => { e with quit := true }
  | .enter | .unbound => e

/-- The effect of a key press.  Presses count also after the session was told to end. -/
def press (e : Explorer) (disk : Disk) (p : KeyPress) : Explorer × Disk :=
  if p.isControl 'c' then ({ e with quit := true }, disk)
  else if p.key = .enter then e.submit disk
  else (e.handle p.key, disk)

/-- The effect of several key presses. -/
def run (e : Explorer) (disk : Disk) (presses : List KeyPress) : Explorer × Disk :=
  presses.foldl (fun (e, disk) p => e.press disk p) (e, disk)

/-- The effect of several key presses on a session that ends as soon as it is told to. -/
def runUntilQuit (e : Explorer) (disk : Disk) : List KeyPress → Explorer × Disk
  | [] => (e, disk)
  | p :: presses =>
    if e.quit then (e, disk)
    else
      let (e, disk) := e.press disk p
      e.runUntilQuit disk presses

/-- What is said when a session has ended. -/
def farewell (e : Explorer) : Response where
  exitCode := 0
  stderr := "Evaluated " ++ toString e.history.length ++ " expression(s).\n"

end Explorer

end BraceArith
