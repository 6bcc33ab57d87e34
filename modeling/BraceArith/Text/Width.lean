import BraceArith.Text.WidthTable

/-!
# Width of a text on a screen

A screen is a grid of cells.  A character covers no cell, one or two (a single Khmer sign covers
three), and a text covers as many as its characters together, except that some neighbours share
their cells: an emoji and its skin tone, the Arabic letters lam and alef, and certain tone letters
of Lisu.
-/

namespace BraceArith.Text

/-- Number of cells that a character covers on its own. -/
def charWidth (c : Char) : Nat :=
  -- Everything up to the no-break space is narrow.
  if c.toNat ≤ 0xA0 then 1
  else if zeroWidthTable.holds c then 0
  else if wideTable.holds c then 2
  else if c.toNat = 0x17D8 then 3
  else 1

/-- Whether `c` is a skin tone. -/
def isSkinTone (c : Char) : Bool :=
  0x1F3FB ≤ c.toNat && c.toNat ≤ 0x1F3FF

/-- Whether `c` takes no cell of its own because of the characters after it: it is an emoji with a
    skin tone, a lam before an alef with nothing but marks between them, or the first of two tone
    letters that are written as one. -/
def sharesCell (c : Char) (rest : List Char) : Bool :=
  let next? := rest.head?
  let visible? := rest.find? fun d => charWidth d ≠ 0
  (next?.any isSkinTone && modifierBaseTable.holds c) ||
    (visible?.any alefTable.holds && lamTable.holds c) ||
    (next?.any (fun d => d.toNat = 0xA4FC || d.toNat = 0xA4FD) &&
      0xA4F8 ≤ c.toNat && c.toNat ≤ 0xA4FB)

/-- Number of cells that a text covers. -/
def textWidth : List Char → Nat
  | [] => 0
  | c :: rest => (if sharesCell c rest then 0 else charWidth c) + textWidth rest

/-- A thumb with a skin tone covers two cells, a digit before a skin tone keeps its own. -/
example : textWidth ['👍', '🏽'] = 2 ∧ textWidth ['2', '🏽'] = 3 := by decide +kernel

end BraceArith.Text
