/-!
# Finite binary floating-point numbers

A finite number of the 64-bit binary format is a sign together with the code of its magnitude.
The codes number the magnitudes in increasing order: code `0` is zero, the codes below `2 ^ 52`
are the subnormal numbers, and every further block of `2 ^ 52` codes covers one binary order.
Every magnitude is a whole number of units of `2 ^ (-1074)`, so all arithmetic here is exact
arithmetic on natural numbers followed by one rounding (`nearestCode`) to the nearest magnitude,
a tie going to the even code. An operation whose result would lie beyond the largest finite
number has no result.

Two numbers have the same value when they are equal or both are zero; the sign of zero is kept
because it is written (`-0.0`) but does not take part in comparisons.
-/

set_option autoImplicit false

namespace ReleaseAnalysis

namespace Binary64

/-- How many codes cover one binary order. -/
def blockSize : Nat := Nat.pow 2 52

/-- The first code that no finite number has. -/
def codeBound : Nat := 0x7FF * blockSize

/-- One, counted in units of `2 ^ (-1074)`. -/
def unitsPerOne : Nat := Nat.pow 2 1074

end Binary64

/-- A finite number: a sign and the code of its magnitude. -/
structure Binary64 where
  negative : Bool
  code : Nat
  code_lt : code < Binary64.codeBound
deriving DecidableEq

namespace Binary64

/-- The number zero. -/
def zero : Binary64 := ⟨false, 0, by decide⟩

instance : Inhabited Binary64 := ⟨zero⟩

/-- How many binary places the significand of a code is shifted to the left. -/
def codeShift (code : Nat) : Nat := code / blockSize - 1

/-- The significand of a code; the leading bit is implicit except in the subnormal block. -/
def codeSignificand (code : Nat) : Nat :=
  if code < blockSize then code else blockSize + code % blockSize

/-- The magnitude that a code stands for, in units of `2 ^ (-1074)`. -/
def codeUnits (code : Nat) : Nat := codeSignificand code * Nat.pow 2 (codeShift code)

/-- The magnitude of a number, in units of `2 ^ (-1074)`. -/
def units (x : Binary64) : Nat := codeUnits x.code

/-- Whether the number is zero of either sign. -/
def isZero (x : Binary64) : Bool := x.code == 0

/-- The number with the opposite sign. -/
def neg (x : Binary64) : Binary64 := { x with negative := !x.negative }

/-- Whether two numbers have the same value: zeros of both signs do. -/
def sameValue (x y : Binary64) : Bool := x == y || (x.isZero && y.isZero)

/-- The whole number nearest to a quotient; a tie goes to the even one. -/
def roundHalfEven (num den : Nat) : Nat :=
  let quotient := num / den
  let twice := 2 * (num % den)
  if twice < den then quotient
  else if den < twice then quotient + 1
  else quotient + quotient % 2

/-- The code of the magnitude nearest to `num / den` units; a tie goes to the even code. The
shift is the one that leaves 53 bits before the binary point, so a significand rounded up to the
next binary order lands on that order's first code by itself. -/
def nearestCode (num den : Nat) : Nat :=
  let shift := Nat.log2 (num / den) - 52
  shift * blockSize + roundHalfEven num (den * Nat.pow 2 shift)

/-- The number nearest to `num / den` units, if it is finite. -/
def ofUnits (negative : Bool) (num den : Nat) : Option Binary64 :=
  let code := nearestCode num den
  if finite : code < codeBound then some ⟨negative, code, finite⟩ else none

/-- The number nearest to `num / den`, if it is finite. -/
def ofRatio (negative : Bool) (num den : Nat) : Option Binary64 :=
  ofUnits negative (num * unitsPerOne) den

/-- The number nearest to a natural number, if it is finite. -/
def ofNat? (n : Nat) : Option Binary64 := ofRatio false n 1

/-- The number nearest to an integer, if it is finite. -/
def ofInt? (n : Int) : Option Binary64 := ofRatio (n < 0) n.natAbs 1

/-- The product rounded to the nearest number, if that is finite. -/
def mul? (x y : Binary64) : Option Binary64 :=
  ofUnits (x.negative != y.negative) (x.units * y.units) unitsPerOne

/-- The quotient rounded to the nearest number, if that is finite; there is none by zero. -/
def div? (x y : Binary64) : Option Binary64 :=
  if y.isZero then none
  else ofUnits (x.negative != y.negative) (x.units * unitsPerOne) y.units

/-- The number nearest to a power of ten, if it is finite. -/
def powerOfTen? (exponent : Nat) : Option Binary64 := ofNat? (Nat.pow 10 exponent)

end Binary64

end ReleaseAnalysis
