import BraceArith.Decimal.Shortest

/-!
# Positional text of a number

Numbers are written with the fewest digits that read back as the same number, in positional
notation whatever their size: there is never an exponent, an integer has no point, and a number
below one has a zero before the point.  Negative zero keeps its sign; what is no number has none.

## Main definitions

- `Scaled.positional`: the digits of a decimal with zeros and a point where they belong
- `text`: the text of a double-precision number
-/

namespace BraceArith.Decimal

/-- The decimal written out in full: zeros up to the point, or a point among the digits. -/
def Scaled.positional (d : Scaled) : List Char :=
  let digits := Nat.toDigits 10 d.digits
  let places := (-d.scale).toNat
  if places = 0 then digits ++ List.replicate d.scale.toNat '0'
  else if places < digits.length then
    digits.take (digits.length - places) ++ '.' :: digits.drop (digits.length - places)
  else '0' :: '.' :: (List.replicate (places - digits.length) '0' ++ digits)

/-- The text of a magnitude. -/
def Magnitude.chars : Magnitude → List Char
  | .nan => ['N', 'a', 'N']
  | .infinite => ['i', 'n', 'f']
  | .zero => ['0']
  | .finite b => b.shortest.positional

/-- The characters of the number with the given bit pattern. -/
def charsOfBits (bits : Nat) : List Char :=
  let magnitude := Magnitude.ofBits bits
  if signBit bits && magnitude != .nan then '-' :: magnitude.chars else magnitude.chars

/-- The characters of a number. -/
def chars (x : Float) : List Char :=
  charsOfBits x.toBits.toNat

/-- The text of a number. -/
def text (x : Float) : String :=
  String.ofList (chars x)

/-! ## §1 Samples -/

/-- Zero has a sign; a quarter has a point; an integer has none. -/
example : [0x8000000000000000, 0x3FD0000000000000, 0x4059000000000000].map charsOfBits =
    ["-0".toList, "0.25".toList, "100".toList] := by decide +kernel

/-- The sum of one tenth and two tenths, and a third of one. -/
example : [0x3FD3333333333334, 0x3FD5555555555555].map charsOfBits =
    ["0.30000000000000004".toList, "0.3333333333333333".toList] := by decide +kernel

/-- No number has no sign, infinity has one. -/
example : [0xFFF8000000000000, 0xFFF0000000000000].map charsOfBits =
    ["NaN".toList, "-inf".toList] := by decide +kernel

end BraceArith.Decimal
