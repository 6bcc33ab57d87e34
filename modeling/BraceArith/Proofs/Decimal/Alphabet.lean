import BraceArith.Decimal.Positional

/-!
# The characters of numbers

The text of a number has digits, a point, a sign and the letters of the three words for what is
not finite, and nothing else.  So wherever such a text is put between other characters (quotation
marks, line feeds, guides of a drawing) it cannot be mistaken for them.
-/

namespace BraceArith.Decimal

/-- Whether a character may occur in the text of a number. -/
def isNumberChar (c : Char) : Bool :=
  c.isDigit || ['.', '-', 'N', 'a', 'i', 'n', 'f'].contains c

theorem isNumberChar_of_isDigit {c : Char} (h : c.isDigit = true) : isNumberChar c = true := by
  simp [isNumberChar, h]

/-- Numbers are written without blanks and far below the box-drawing characters. -/
theorem toNat_lt_of_isNumberChar {c : Char} (h : isNumberChar c = true) :
    c ≠ ' ' ∧ c.toNat < 128 := by
  have hwords : ∀ c ∈ ['.', '-', 'N', 'a', 'i', 'n', 'f'], c ≠ ' ' ∧ c.toNat < 128 := by simp
  simp only [isNumberChar, Bool.or_eq_true, List.contains_iff_mem] at h
  rcases h with h | h
  · have hbounds : 48 ≤ c.toNat ∧ c.toNat ≤ 57 := by
      simpa [Char.isDigit, UInt32.le_iff_toNat_le] using h
    refine ⟨?_, by omega⟩
    rintro rfl
    revert hbounds
    decide
  · exact hwords c h

/-- Written out in full, a decimal has digits and points alone. -/
theorem isDigit_or_eq_point_of_mem_positional {d : Scaled} {c : Char} (h : c ∈ d.positional) :
    c.isDigit = true ∨ c = '.' := by
  have hdigits : ∀ {c}, c ∈ Nat.toDigits 10 d.digits → c.isDigit = true :=
    Nat.isDigit_of_mem_toDigits (by decide) (by decide)
  have hzeros : ∀ {n c}, c ∈ List.replicate n '0' → c.isDigit = true := by
    intro n c hc
    rw [List.eq_of_mem_replicate hc]
    decide
  unfold Scaled.positional at h
  simp only at h
  split at h
  · -- An integer: its digits, then zeros.
    rcases List.mem_append.mp h with h | h
    · exact .inl (hdigits h)
    · exact .inl (hzeros h)
  split at h
  · -- A point among the digits.
    rcases List.mem_append.mp h with h | h
    · exact .inl (hdigits (List.mem_of_mem_take h))
    · rcases List.mem_cons.mp h with rfl | h
      · exact .inr rfl
      · exact .inl (hdigits (List.mem_of_mem_drop h))
  · -- Below one: a zero, the point, and zeros before the digits.
    rcases List.mem_cons.mp h with rfl | h
    · exact .inl (by decide)
    rcases List.mem_cons.mp h with rfl | h
    · exact .inr rfl
    rcases List.mem_append.mp h with h | h
    · exact .inl (hzeros h)
    · exact .inl (hdigits h)

theorem isNumberChar_of_mem_positional {d : Scaled} {c : Char} (h : c ∈ d.positional) :
    isNumberChar c = true := by
  rcases isDigit_or_eq_point_of_mem_positional h with hdigit | rfl
  · exact isNumberChar_of_isDigit hdigit
  · decide

theorem isNumberChar_of_mem_magnitude {m : Magnitude} {c : Char} (h : c ∈ m.chars) :
    isNumberChar c = true := by
  cases m with
  | nan => exact List.all_eq_true.mp (by decide : ['N', 'a', 'N'].all isNumberChar = true) c h
  | infinite => exact List.all_eq_true.mp (by decide : ['i', 'n', 'f'].all isNumberChar = true) c h
  | zero => exact List.all_eq_true.mp (by decide : ['0'].all isNumberChar = true) c h
  | finite b => exact isNumberChar_of_mem_positional h

/-- Every character of a number's text is one that numbers are written with. -/
theorem isNumberChar_of_mem_text {x : Float} {c : Char} (h : c ∈ (text x).toList) :
    isNumberChar c = true := by
  simp only [text, String.toList_ofList, chars, charsOfBits] at h
  split at h
  · rcases List.mem_cons.mp h with rfl | h
    · decide
    · exact isNumberChar_of_mem_magnitude h
  · exact isNumberChar_of_mem_magnitude h

end BraceArith.Decimal
