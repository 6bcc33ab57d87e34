import BraceArith.Expr.Basic

/-!
# Graph descriptions of a tree

A tree is exported as a directed graph in the DOT format: a statement declares each node with its
label, and a statement links each node to its parent.  Nodes are numbered in depth-first order,
parents before children and left before right.  A node's declaration comes first, then for each
child everything below it, followed by the link to that child.

## Main definitions

- `Statement`: a declaration or a link
- `statements`: the statements of a tree, with the first number that is free afterwards
- `appendTo`: writes the same statements behind a text that grows from left to right
- `document`: the whole text

## Main statements

- `appendTo_eq`: what is appended does not depend on the text before it, and is the text of the
  statements
-/

namespace BraceArith.Graph

/-! ## §1 Statements -/

/-- One line of a graph description. -/
inductive Statement where
  /-- Node number `id` exists and shows `label`. -/
  | node (id : Nat) (label : String)
  /-- A link leads from node `parent` to node `child`. -/
  | edge (parent child : Nat)
deriving DecidableEq, Repr

/-- The name of the node with number `id`. -/
def nodeName (id : Nat) : String :=
  "node" ++ toString id

/-- The statement's line without its end. -/
def Statement.text : Statement → String
  | node id label => "  " ++ nodeName id ++ " [label=\"" ++ label ++ "\"];"
  | edge parent child => "  " ++ nodeName parent ++ " -> " ++ nodeName child ++ ";"

/-- The statement's line. -/
def Statement.line (s : Statement) : String :=
  s.text ++ "\n"

/-- The lines of several statements. -/
def linesText : List Statement → String
  | [] => ""
  | s :: rest => s.line ++ linesText rest

/-- Lines add up. -/
theorem linesText_append (a b : List Statement) :
    linesText (a ++ b) = linesText a ++ linesText b := by
  induction a with
  | nil => simp [linesText]
  | cons s a ih => simp [linesText, ih, String.append_assoc]

/-! ## §2 Numbering -/

/-- The statements of a tree whose root has number `root`, where numbers from `next` on are free,
    together with the first number that is free afterwards. -/
def statements (root next : Nat) : Expr → List Statement × Nat
  | t@(.literal _) => ([.node root t.label], next)
  | t@(.binary _ left right) =>
    let (below, afterLeft) := statements next (next + 1) left
    let (below', afterRight) := statements afterLeft (afterLeft + 1) right
    (.node root t.label :: below ++ .edge root next :: below' ++ [.edge root afterLeft],
      afterRight)

/-- Every node but the root takes a number. -/
theorem statements_snd (t : Expr) (root next : Nat) :
    (statements root next t).2 + 1 = next + t.nodeCount := by
  induction t generalizing root next with
  | literal _ => rfl
  | binary _ l r ihl ihr =>
    have hl := ihl next (next + 1)
    have hr := ihr (statements next (next + 1) l).2 ((statements next (next + 1) l).2 + 1)
    simp only [statements, Expr.nodeCount]
    omega

/-! ## §3 Writing -/

/-- Appends the statements of a tree to `sink`, numbered as by `statements`. -/
def appendTo (sink : String) (root next : Nat) : Expr → String × Nat
  | t@(.literal _) => (sink ++ (Statement.node root t.label).line, next)
  | t@(.binary _ left right) =>
    let (sink, afterLeft) :=
      appendTo (sink ++ (Statement.node root t.label).line) next (next + 1) left
    let (sink, afterRight) :=
      appendTo (sink ++ (Statement.edge root next).line) afterLeft (afterLeft + 1) right
    (sink ++ (Statement.edge root afterLeft).line, afterRight)

/-- Appending writes the lines of the statements behind `sink`. -/
theorem appendTo_eq (t : Expr) (sink : String) (root next : Nat) :
    appendTo sink root next t =
      (sink ++ linesText (statements root next t).1, (statements root next t).2) := by
  induction t generalizing sink root next with
  | literal _ => simp [appendTo, statements, linesText]
  | binary _ l r ihl ihr =>
    simp [appendTo, statements, ihl, ihr, linesText, linesText_append, String.append_assoc]

/-! ## §4 Documents -/

/-- Name of the exported graph. -/
def graphName : String := "ExpressionTree"

/-- First line of a document, without its end. -/
def header : String := "digraph " ++ graphName ++ " \x7b"

/-- Last line of a document, without its end. -/
def footer : String := "\x7d"

/-- The graph description of a tree, its root being number zero. -/
def document (t : Expr) : String :=
  (appendTo (header ++ "\n") 0 1 t).1 ++ footer ++ "\n"

/-- Where a graph description is written unless told otherwise. -/
def defaultPath : String := "tree.dot"

end BraceArith.Graph
