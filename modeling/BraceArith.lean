import BraceArith.Grammar.Rules
import BraceArith.Main
import BraceArith.Proofs.Grammar.Conservation
import BraceArith.Proofs.Grammar.Language
import BraceArith.Proofs.Grammar.Resume
import BraceArith.Proofs.Grammar.RoundTrip
import BraceArith.Proofs.Grammar.Run
import BraceArith.Proofs.Grammar.Viable
import BraceArith.Proofs.Session.Cache
import BraceArith.Proofs.Session.Index
import BraceArith.Proofs.Decimal.Alphabet
import BraceArith.Proofs.Expr.Preorder
import BraceArith.Proofs.Graph.Lines
import BraceArith.Proofs.Graph.Numbering
import BraceArith.Proofs.Graph.Injective
import BraceArith.Proofs.Graph.Fragment
import BraceArith.Proofs.Explorer.Step
import BraceArith.Proofs.Explorer.Editing
import BraceArith.Proofs.Explorer.Draft
import BraceArith.Proofs.Explorer.Output
import BraceArith.Proofs.Explorer.Drawing
import BraceArith.Proofs.Explorer.LineMode
import BraceArith.Proofs.Expr.Drawing
import BraceArith.Proofs.Graph.Route
import BraceArith.Proofs.Explorer.Resubmit
import BraceArith.Proofs.Explorer.Scrolling
import BraceArith.Proofs.Graph.Highlight
import BraceArith.Proofs.CommandLine.StandardInput
import BraceArith.Proofs.Grammar.Calls
import BraceArith.Proofs.View.InputLine
import BraceArith.Proofs.View.DrawnLine
import BraceArith.Proofs.Screen.Cells
