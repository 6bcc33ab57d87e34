import BraceArith.Expr.Drawing
import BraceArith.Graph.Lexeme
import BraceArith.Session.History
import BraceArith.Text.Lines
import BraceArith.View.Pane

/-!
# Contents of the panes

Three panes show what came of the lines submitted so far: the drawing of the newest tree, its graph
description, and the list of lines.

## Main definitions

- `treePane`, `graphPane`, `historyPane`: the panes
- `drawnLine`: a line of a drawing, split and coloured by its characters
- `highlight`: a line of a graph description, coloured by its lexemes
-/

namespace BraceArith.View

open BraceArith.Screen

/-! ## §1 The tree -/

/-- The style of a node's label. -/
def labelStyle (label : List Char) : Style :=
  if isPlainNumber label then .ink Palette.number else (Style.ink Palette.operator).bolder

/-- A line of a drawing: its guide and its label, unless it cannot be cut between them. -/
def drawnLine? (line : String) : Option Line :=
  (splitGuide? line).map fun (guide, label) =>
    [.ofText guide (.ink Palette.comment), .ofText label (labelStyle label.toList)]

/-- A line of a drawing, coloured. -/
def drawnLine (line : String) : Line :=
  (drawnLine? line).getD []

/-- What is said about a line with a report: its text, value and size, what was ignored, and below
    an empty line the drawing. -/
def reportLines (report : Report) : List Line :=
  let caption := Style.ink Palette.comment
  [[.ofText "Tree:   " caption, .ofText report.rendering (.ink Palette.foreground)],
   [.ofText "Result: " caption,
    .ofText (Decimal.text report.value) (Style.ink Palette.success).bolder],
   [.ofText (toString report.tree.nodeCount ++ " nodes, depth " ++ toString report.tree.depth)
      caption]] ++
  (match report.trailing with
    | some trailing =>
      [[.ofText ("ignored trailing input: " ++ trailing) (.ink Palette.secondary)]]
    | none => []) ++
  [] :: report.tree.drawing.map drawnLine

/-- The lines of the tree pane for an entry. -/
def entryLines (entry : Entry) : List Line :=
  match entry.outcome with
  | .ok report => reportLines report
  | .error e =>
    [[.ofText entry.input (.ink Palette.foreground)],
     [.ofText ("Error: " ++ e.display) (Style.ink Palette.error).bolder]]

/-- The pane that shows the newest entry. -/
def treePane (newest? : Option Entry) (focused : Bool) : Pane where
  title := " Expression Tree "
  focused := focused
  body :=
    match newest? with
    | some entry => .lines 0 .clusters (entryLines entry)
    | none => .remark "(type an expression and press Enter)"

/-! ## §2 The graph -/

/-- The colour of a kind of lexeme. -/
def lexemeColor : Graph.LexemeKind → Color
  | .name => Palette.number
  | .quoted => Palette.quoted
  | .arrow => Palette.operator
  | .keyword => Palette.keyword
  | .single => Palette.foreground

/-- A lexeme in its colour. -/
def lexemeSpan (lexeme : Graph.Lexeme) : Span :=
  .ofText lexeme.text (.ink (lexemeColor lexeme.kind))

/-- A line of a graph description, coloured, unless it has no lexemes. -/
def highlight? (line : List Char) : Option Line :=
  (Graph.lexemes? (String.ofList line)).map fun lexemes => lexemes.map lexemeSpan

/-- A line of a graph description, coloured. -/
def highlight (line : List Char) : Line :=
  (highlight? line).getD []

/-- The pane that shows a graph description. -/
def graphPane (dot? : Option String) (focused : Bool) : Pane where
  title := " Graph (DOT) "
  focused := focused
  body :=
    match dot? with
    | some dot => .lines 1 .clusters ((Text.lines dot).map highlight)
    | none => .remark "(no graph)"

/-! ## §3 The history -/

/-- The line of an entry: whether it succeeded, what was submitted, and what came of it. -/
def historyLine (entry : Entry) : Line :=
  let input := Span.ofText entry.input (.ink Palette.foreground)
  match entry.outcome with
  | .ok report =>
    [.ofText "✓ " (.ink Palette.success), input, .ofText " = " (.ink Palette.comment),
     .ofText (Decimal.text report.value) (.ink Palette.number)]
  | .error e =>
    [.ofText "✗ " (.ink Palette.error), input, .ofText ("  " ++ e.message) (.ink Palette.error)]

/-- The history pane's title, with its counts once there is anything to count. -/
def historyTitle (history : History) : String :=
  if history.isEmpty then " History "
  else
    " History (" ++ toString history.distinct ++ " distinct, " ++ toString history.failed ++
      " failed) "

/-- The pane that lists the submitted lines, newest at the bottom. -/
def historyPane (history : History) (focused : Bool) : Pane where
  title := historyTitle history
  focused := focused
  body :=
    if history.isEmpty then .remark "(empty)"
    else .lines 1 .spans (history.entries.map historyLine)

end BraceArith.View
