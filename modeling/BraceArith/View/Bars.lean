import BraceArith.Screen.Canvas
import BraceArith.Text.Blank
import BraceArith.View.Palette

/-!
# The input line and the status bar

The input line shows as much of the line being edited as fits, moved so that the cursor is in
view.  The status bar shows how the last submission went on its left, and the keys on its right.
-/

namespace BraceArith.View

open BraceArith.Screen

/-! ## §1 The input line -/

/-- The style of a character by its part in an expression. -/
def characterStyle (c : Char) : Style :=
  if c.isDigit then .ink Palette.number
  else if c = '+' || c = '-' || c = '*' || c = '/' then .ink Palette.operator
  else if c = '{' || c = '}' then .ink Palette.primary
  else if Text.isBlank c then {}
  else .ink Palette.error

/-- Number of characters that an area of the given width has room for; never less than one. -/
def inputRoom (width : Nat) : Nat :=
  max 1 (width - 2)

/-- Number of characters that are moved out of view on the left. -/
def inputSkip (width cursor : Nat) : Nat :=
  cursor + 1 - inputRoom width

/-- The characters that are shown. -/
def inputSlice (width cursor : Nat) (input : List Char) : List Char :=
  (input.drop (inputSkip width cursor)).take (inputRoom width)

/-- The characters that are shown, each in its style. -/
def inputLine (width cursor : Nat) (input : List Char) : Line :=
  (inputSlice width cursor input).map fun c => ⟨[c], characterStyle c⟩

/-- Number of characters shown before the cursor, as a number of columns.  The terminal counts
    columns in sixteen bits. -/
def inputColumn (width cursor : Nat) : UInt16 :=
  (cursor - inputSkip width cursor).toUInt16

/-- Where the terminal's cursor stands. -/
def inputCursor (area : Area) (cursor : Nat) : Nat × Nat :=
  (area.x + 1 + (inputColumn area.width cursor).toNat, area.y + 1)

/-- Draws the input line. -/
def drawInput (area : Area) (input : List Char) (cursor : Nat) (canvas : Canvas) : Canvas :=
  (canvas.border area " Expression " (Palette.border true)).drawLines (area.inside 0)
    [inputLine area.width cursor input]

/-! ## §2 The status bar -/

/-- How the last submission went: the number of submissions, and a message. -/
def statusLine (message : String) (submitted : Nat) (failed : Bool) : Line :=
  let badge := Style.on (.ink .black) (if failed then Palette.error else Palette.primary)
  let tone := if failed then Palette.error else Palette.foreground
  [.ofText (" #" ++ toString submitted ++ " ") badge.bolder,
   .ofText " | " (Style.on (.ink Palette.comment) Palette.barGround),
   .ofText (" " ++ message ++ " ") (Style.on (.ink tone) Palette.barGround)]

/-- The keys and what they do. -/
def keyHelp : List (String × String) :=
  [(" ↵ ", " evaluate "), (" ↑/↓ ", " recall "), (" ⇥ ", " focus "), (" PgUp/PgDn ", " scroll "),
   ("esc", " quit ")]

/-- The keys and what they do, as a line. -/
def keyLine : Line :=
  let key := Style.on (.ink .black) Palette.comment
  let plain := Style.on (.ink Palette.foreground) Palette.barGround
  let separator := Style.on (.ink Palette.comment) Palette.barGround
  let item (entry : String × String) : Line := [.ofText entry.1 key, .ofText entry.2 plain]
  [Span.ofText "│" separator, Span.ofText " " plain].intercalate (keyHelp.map item)

/-- Draws the status bar: the status in the left half, the keys in the right half. -/
def drawStatus (area : Area) (message : String) (submitted : Nat) (failed : Bool)
    (canvas : Canvas) : Canvas :=
  let (left, right) := area.splitColumns 50
  let draw (half : Area) (line : Line) (align : Canvas.Alignment) (c : Canvas) : Canvas :=
    let c := c.restyle half (Style.on {} Palette.barGround)
    if half.isEmpty then c else c.drawLine half 0 line align
  draw right keyLine .right (draw left (statusLine message submitted failed) .left canvas)

end BraceArith.View
