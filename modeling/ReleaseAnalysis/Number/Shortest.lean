import ReleaseAnalysis.Number.Binary64

/-!
# The shortest decimal that reads back

Every nonzero finite number is the nearest one to a whole interval of decimals. This module finds
the decimal of that interval with the fewest significant digits, and among those the one closest
to the number itself.

For a count of digits the candidates are the two neighbours of the number on the decimal grid
with that many significant digits: if any point of the grid lies in the interval then one of the
two does. The grids are tried from one digit to seventeen; at seventeen a neighbour always lies
in the interval. All comparisons are between natural numbers.
-/

set_option autoImplicit false

namespace ReleaseAnalysis

/-- The decimal `digits * 10 ^ exponent`. -/
structure Decimal where
  digits : Nat
  exponent : Int
deriving DecidableEq, Repr

namespace Decimal

/-- The number of decimal digits of a natural number; zero has one. -/
def digitCount (n : Nat) : Nat := (Nat.toDigits 10 n).length

/-- The exponent of the leading digit of a positive quotient: the quotient is at least ten to
this power and less than ten times that. -/
def leadingExponent (num den : Nat) : Int :=
  if den ≤ num then (digitCount (num / den) - 1 : Nat)
  else -(digitCount ((den - 1) / num) : Int)

/-- The decimal without trailing zeros in its digits; `fuel` bounds the zeros removed. -/
def trim (fuel : Nat) (d : Decimal) : Decimal :=
  match fuel with
  | 0 => d
  | fuel + 1 =>
    if d.digits % 10 == 0 then trim fuel ⟨d.digits / 10, d.exponent + 1⟩ else d

end Decimal

namespace Binary64

/-- The decimals that read back as a given magnitude, in quarters of a unit: an interval about
the magnitude that contains its ends exactly when the significand is even. -/
structure ReadBack where
  low : Nat
  center : Nat
  high : Nat
  closed : Bool

/-- The interval of a number. Its lower half is narrower at the first code of a binary order,
since the numbers below lie closer together. -/
def readBack (x : Binary64) : ReadBack :=
  let step := Nat.pow 2 (codeShift x.code)
  let center := 4 * x.units
  let narrow := x.code % blockSize == 0 && blockSize < x.code
  { low := center - (if narrow then step else 2 * step)
    center := center
    high := center + 2 * step
    closed := x.code % 2 == 0 }

/-- Whether `num / den` quarters of a unit lie in the interval. -/
def ReadBack.contains (interval : ReadBack) (num den : Nat) : Bool :=
  if interval.closed then interval.low * den ≤ num && num ≤ interval.high * den
  else interval.low * den < num && num < interval.high * den

/-- The closest grid point in the interval, on the decimal grid whose spacing is ten to the given
exponent; of two points equally close the even one. -/
def ReadBack.onGrid (interval : ReadBack) (exponent : Int) : Option Decimal :=
  -- The spacing of the grid is `stepNum / stepDen` quarters of a unit.
  let stepNum := 4 * unitsPerOne * Nat.pow 10 exponent.toNat
  let stepDen := Nat.pow 10 (-exponent).toNat
  let below := interval.center * stepDen / stepNum
  let excess := interval.center * stepDen % stepNum
  let candidates :=
    if 2 * excess < stepNum || (2 * excess == stepNum && below % 2 == 0)
    then [below, below + 1] else [below + 1, below]
  (candidates.find? fun point => 0 < point && interval.contains (point * stepNum) stepDen).map
    fun point => ⟨point, exponent⟩

/-- The decimal with the fewest digits that reads back as the number, and of those the closest;
zero for zero. -/
def shortest (x : Binary64) : Decimal :=
  let interval := x.readBack
  let leading := Decimal.leadingExponent x.units unitsPerOne
  let found := (List.range 17).findSome? fun (count : Nat) => interval.onGrid (leading - count)
  (found.getD ⟨0, 0⟩).trim 17

end Binary64

end ReleaseAnalysis
