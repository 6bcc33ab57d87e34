import BraceArith.Text.Cluster

/-!
# Styles

A style says what a cell looks like: its two colours and whether it is bold.  A style may leave a
colour open; laid over another one it then changes nothing there.
-/

namespace BraceArith.Screen

/-- A colour. -/
inductive Color where
  /-- The terminal's own black. -/
  | black
  /-- A mixture of red, green and blue. -/
  | rgb (red green blue : UInt8)
deriving DecidableEq, Repr

/-- What a cell looks like.  A missing colour is the terminal's default. -/
structure Style where
  /-- Colour of the character. -/
  foreground : Option Color := none
  /-- Colour behind it. -/
  background : Option Color := none
  /-- Whether the character is bold. -/
  bold : Bool := false
deriving DecidableEq, Repr

namespace Style

/-- The style that colours characters only. -/
def ink (color : Color) : Style :=
  { foreground := some color }

/-- The same style in bold. -/
def bolder (s : Style) : Style :=
  { s with bold := true }

/-- The same style on a coloured ground. -/
def on (s : Style) (color : Color) : Style :=
  { s with background := some color }

/-- The style `top` laid over `base`: its colours win where it has any, and bold adds up. -/
def layer (top base : Style) : Style where
  foreground := top.foreground <|> base.foreground
  background := top.background <|> base.background
  bold := top.bold || base.bold

end Style

/-- Characters of one style. -/
structure Span where
  /-- The characters. -/
  chars : List Char
  /-- Their style. -/
  style : Style := {}
deriving DecidableEq, Repr

/-- A line of styled text. -/
abbrev Line := List Span

/-- The span with the given text. -/
def Span.ofText (text : String) (style : Style) : Span :=
  ⟨text.toList, style⟩

/-- What a span shows, from left to right.  A line feed shows nothing. -/
def Span.clusters (span : Span) : List (List Char) :=
  (Text.clusters span.chars).filter (· ≠ ['\n'])

/-- What a line shows, from left to right, each cluster with its style. -/
def Line.clusters (line : Line) : List (List Char × Style) :=
  line.flatMap fun span => span.clusters.map fun cluster => (cluster, span.style)

end BraceArith.Screen
