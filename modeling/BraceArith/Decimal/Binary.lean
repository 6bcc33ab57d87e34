/-!
# Double-precision numbers as exact integers

A double-precision number is kept in 64 bits: one for the sign, eleven for the exponent and
fifty-two for the fraction.  This module takes such a pattern apart into integers, so that
everything said about its decimal text is exact arithmetic on `Nat` and `Int`.

## Main definitions

- `Binary`: a positive number `significand · 2 ^ exponent`, with the spacing of its neighbours
- `Magnitude`: what the bits without the sign stand for
- `Magnitude.ofBits`, `signBit`: the two parts of a bit pattern
-/

namespace BraceArith.Decimal

/-! ## §1 Types -/

/-- The positive number `significand · 2 ^ exponent`. -/
structure Binary where
  /-- The integer that the power of two scales. -/
  significand : Nat
  /-- The exponent of two. -/
  exponent : Int
  /-- Whether the next smaller number is only half as far away as the next larger one.  This
      happens at powers of two, where the spacing changes. -/
  narrowBelow : Bool
deriving DecidableEq, Repr

/-- What a bit pattern without its sign stands for. -/
inductive Magnitude where
  /-- No number at all. -/
  | nan
  /-- Beyond every finite number. -/
  | infinite
  /-- Zero. -/
  | zero
  /-- A positive finite number. -/
  | finite (value : Binary)
deriving DecidableEq, Repr

/-! ## §2 Taking a pattern apart -/

/-- Number of bits of the fraction. -/
def fractionBits : Nat := 52

/-- The exponent field of infinities and of patterns that are no number. -/
def specialField : Nat := 0x7FF

/-- The exponent of two that goes with the smallest numbers. -/
def leastExponent : Int := -1074

/-- The magnitude with the given exponent field and fraction.  A zero field marks the evenly
    spaced numbers next to zero; any other field adds a leading one bit to the fraction. -/
def Magnitude.ofFields (field fraction : Nat) : Magnitude :=
  if field = specialField then
    if fraction = 0 then .infinite else .nan
  else if field = 0 then
    if fraction = 0 then .zero else .finite ⟨fraction, leastExponent, false⟩
  else
    .finite ⟨Nat.pow 2 fractionBits + fraction, leastExponent + (field - 1 : Nat),
      fraction = 0 && 1 < field⟩

/-- The magnitude of a bit pattern. -/
def Magnitude.ofBits (bits : Nat) : Magnitude :=
  .ofFields (bits / Nat.pow 2 fractionBits % Nat.pow 2 11) (bits % Nat.pow 2 fractionBits)

/-- Whether the pattern's sign bit is set. -/
def signBit (bits : Nat) : Bool :=
  bits / Nat.pow 2 63 % 2 = 1

/-- Three is `6755399441055744 · 2 ^ (-51)`. -/
example : Magnitude.ofBits 0x4008000000000000 = .finite ⟨6755399441055744, -51, false⟩ := by
  decide

end BraceArith.Decimal
