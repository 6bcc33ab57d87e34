import BraceArith.Screen.Style

/-!
# Colours of the explorer

Every colour is named for what it is used on, so that a change of taste touches this module alone.
-/

namespace BraceArith.View.Palette

open BraceArith.Screen (Color Style)

/-- Ordinary text. -/
def foreground : Color := .rgb 205 214 244

/-- Blue: braces, the badge of a good status. -/
def primary : Color := .rgb 137 180 250

/-- Orange: what was ignored. -/
def secondary : Color := .rgb 250 179 135

/-- Grey: guides, captions, separators. -/
def comment : Color := .rgb 108 112 134

/-- Green: results. -/
def success : Color := .rgb 166 227 161

/-- Red: failures. -/
def error : Color := .rgb 243 139 168

/-- Blue: words of the graph format. -/
def keyword : Color := .rgb 137 180 250

/-- Orange: quoted labels. -/
def quoted : Color := .rgb 250 179 135

/-- Orange: numbers and node names. -/
def number : Color := .rgb 250 179 135

/-- Yellow: operators and arrows. -/
def operator : Color := .rgb 249 226 175

/-- Yellow: the border of the pane with the focus. -/
def focusedBorder : Color := .rgb 249 226 175

/-- Grey: the border of any other pane. -/
def plainBorder : Color := .rgb 108 112 134

/-- The ground of the status bar. -/
def barGround : Color := .rgb 50 50 70

/-- The style of a pane's border. -/
def border (focused : Bool) : Style :=
  if focused then (Style.ink focusedBorder).bolder else .ink plainBorder

end BraceArith.View.Palette
