/-!
# Blank characters

Blanks never carry meaning in an expression: they are taken out of a line before anything else
looks at it, and a line of blanks alone is no line at all.  A character is blank when it has the
Unicode property `White_Space`, which holds of twenty-five characters.

## Main definitions

- `isBlank`: the property itself, as a table of code points
- `strip`: the characters of a text that are not blank, in order
- `isBlankLine`: whether a text holds nothing but blanks
-/

namespace BraceArith.Text

/-! ## §1 The property -/

/-- Code points with the property `White_Space`, as closed ranges in ascending order. -/
def blankRanges : List (Nat × Nat) :=
  [(0x0009, 0x000D), (0x0020, 0x0020), (0x0085, 0x0085), (0x00A0, 0x00A0), (0x1680, 0x1680),
   (0x2000, 0x200A), (0x2028, 0x2029), (0x202F, 0x202F), (0x205F, 0x205F), (0x3000, 0x3000)]

/-- Whether `c` is a blank.  Separators of information (U+001C to U+001F) and the zero-width
    space (U+200B) are not. -/
def isBlank (c : Char) : Bool :=
  blankRanges.any fun (first, last) => first ≤ c.toNat && c.toNat ≤ last

/-! ## §2 Taking blanks out -/

/-- The characters of `text` that are not blank, in order. -/
def strip (text : String) : List Char :=
  text.toList.filter fun c => !isBlank c

/-- Whether `text` holds nothing but blanks. -/
def isBlankLine (text : String) : Bool :=
  text.toList.all isBlank

/-! ## §3 Small facts -/

/-- No blank is left after stripping. -/
theorem isBlank_of_mem_strip {text : String} {c : Char} (h : c ∈ strip text) :
    isBlank c = false := by
  simpa using (List.mem_filter.1 h).2

/-- Stripping works piece by piece. -/
theorem strip_append (a b : String) : strip (a ++ b) = strip a ++ strip b := by
  simp [strip, String.toList_append]

/-- Stripping takes nothing from a part of a stripped text. -/
theorem strip_ofList_drop (text : String) (k : Nat) :
    strip (String.ofList ((strip text).drop k)) = (strip text).drop k := by
  have hkept : ∀ c ∈ (strip text).drop k, (!isBlank c) = true := by
    intro c hc
    rw [isBlank_of_mem_strip (List.mem_of_mem_drop hc)]
    rfl
  rw [strip, String.toList_ofList, List.filter_eq_self.mpr hkept]

/-- The table has twenty-five members. -/
example : (blankRanges.map fun (first, last) => last + 1 - first).sum = 25 := by decide

/-- Digits, operators and braces are not blank. -/
example : "0123456789+-*/\x7b\x7d".toList.all (fun c => !isBlank c) = true := by decide

end BraceArith.Text
