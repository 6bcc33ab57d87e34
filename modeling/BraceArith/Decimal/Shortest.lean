import BraceArith.Decimal.Binary

/-!
# Shortest decimals

Every double-precision number is the nearest one to all reals of a small interval around it.  Its
shortest decimal is the one with the fewest digits inside that interval; of several with equally
few digits, the nearest to the number.

The search goes over decimal grids, that is, the multiples of `10 ^ p`, from coarse to fine.  If
any multiple of `10 ^ p` lies in the interval, then so does one of the two neighbours of the
number on that grid, so these two are all that has to be looked at.

All comparisons are exact.  They are made in quarters of the number's last binary place, in which
both ends of the interval are integers.

## Main definitions

- `Binary.onGrid?`: the multiple of `10 ^ p` that stands for a number, if one does
- `Binary.shortest`: the first such multiple from coarse to fine
-/

namespace BraceArith.Decimal

/-- The decimal `digits · 10 ^ scale`. -/
structure Scaled where
  /-- The decimal's digits, read as one integer. -/
  digits : Nat
  /-- The power of ten of the last digit. -/
  scale : Int
deriving DecidableEq, Repr

namespace Binary

/-! ## §1 The interval of a number

A number is `4 · significand` quarters of its last binary place.
-/

/-- Lower end of the interval, in quarters. -/
def low (b : Binary) : Nat :=
  4 * b.significand - if b.narrowBelow then 1 else 2

/-- Upper end of the interval, in quarters. -/
def high (b : Binary) : Nat :=
  4 * b.significand + 2

/-- Whether the ends belong to the interval: a tie between two numbers goes to the one with the
    even significand. -/
def closed (b : Binary) : Bool :=
  b.significand % 2 = 0

/-! ## §2 Grids

On the grid of `10 ^ p`, `k` quarters are `k · quarter p / cell p` grid steps.
-/

/-- Numerator of a quarter, measured in steps of `10 ^ p`. -/
def quarter (b : Binary) (p : Int) : Nat :=
  Nat.pow 2 (b.exponent - 2).toNat * Nat.pow 10 (-p).toNat

/-- Denominator of a quarter, measured in steps of `10 ^ p`. -/
def cell (b : Binary) (p : Int) : Nat :=
  Nat.pow 2 (2 - b.exponent).toNat * Nat.pow 10 p.toNat

/-- Whether `n · 10 ^ p` lies in the interval of `b`. -/
def holds (b : Binary) (p : Int) (n : Nat) : Bool :=
  let u := b.quarter p
  let x := n * b.cell p
  if b.closed then b.low * u ≤ x && x ≤ b.high * u else b.low * u < x && x < b.high * u

/-- The largest `n` with `n · 10 ^ p` not above `b`. -/
def floorOn (b : Binary) (p : Int) : Nat :=
  4 * b.significand * b.quarter p / b.cell p

/-- Whether `b` is nearer to `n · 10 ^ p` than to the next multiple above it.  Halfway counts as
    nearer to the upper one. -/
def nearerBelow (b : Binary) (p : Int) (n : Nat) : Bool :=
  8 * b.significand * b.quarter p < (2 * n + 1) * b.cell p

/-- The multiple of `10 ^ p` that stands for `b`, if one lies in its interval; of two, the
    nearer. -/
def onGrid? (b : Binary) (p : Int) : Option Nat :=
  let n := b.floorOn p
  match b.holds p n, b.holds p (n + 1) with
  | true, true => if b.nearerBelow p n then some n else some (n + 1)
  | true, false => some n
  | false, true => some (n + 1)
  | false, false => none

/-! ## §3 The search -/

/-- Moving the point by this many places makes every positive number at least one. -/
def deepestPlace : Nat := 324

/-- The least `e` with `b < 10 ^ e`: the number of digits of its integer part or, below one, of
    its integer part after a shift by `deepestPlace` decimal places. -/
def decade (b : Binary) : Int :=
  let whole (shift : Nat) : Nat :=
    b.significand * Nat.pow 10 shift * Nat.pow 2 b.exponent.toNat / Nat.pow 2 (-b.exponent).toNat
  let shift := if whole 0 = 0 then deepestPlace else 0
  (Nat.toDigits 10 (whole shift)).length - (shift : Int)

/-- Enough digits to tell any two numbers apart. -/
def mostDigits : Nat := 17

/-- The shortest decimal of `b`, the nearest if there are several.  Its last digit is not zero,
    since otherwise a coarser grid would have held it.  Seventeen digits always suffice; the
    search ends on that grid in any case. -/
def shortest (b : Binary) : Scaled :=
  let e := b.decade
  let finest := e - mostDigits
  let grids := (List.range (mostDigits + 1)).map fun (n : Nat) => e - n
  (grids.findSome? fun p => (b.onGrid? p).map (Scaled.mk · p)).getD ⟨b.floorOn finest, finest⟩

end Binary

end BraceArith.Decimal
