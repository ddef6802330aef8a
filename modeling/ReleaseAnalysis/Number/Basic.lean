import ReleaseAnalysis.Number.Shortest

/-!
# Numbers of a document

A number of a document is a whole number, kept exactly, or a finite binary floating-point number.
The two kinds are told apart when a number is written (`1` and `1.0`), and compared by value after
rounding to the binary format.

A floating-point number is written with the digits of its shortest decimal. The layout is
positional from `10 ^ (-5)` up to but not including `10 ^ 16`, with at least one digit after the
point, and scientific elsewhere.
-/

set_option autoImplicit false

namespace ReleaseAnalysis

/-- A number of a document. -/
inductive Number
  | int (value : Int)
  | float (value : Binary64)
deriving DecidableEq

namespace Decimal

/-- The exponent of the leading digit. -/
def leading (d : Decimal) : Int := d.exponent + (digitCount d.digits - 1 : Nat)

/-- Positional notation: at least one digit on either side of the point. -/
def positional (d : Decimal) : List Char :=
  let digits := Nat.toDigits 10 d.digits
  if 0 ≤ d.exponent then digits ++ List.replicate d.exponent.toNat '0' ++ ['.', '0']
  else
    let places := (-d.exponent).toNat
    let padded := List.replicate (places + 1 - digits.length) '0' ++ digits
    padded.take (padded.length - places) ++ '.' :: padded.drop (padded.length - places)

/-- Scientific notation: one digit before the point, no point after a single digit, and a sign on
every exponent. -/
def scientific (d : Decimal) : List Char :=
  let exponent :=
    if d.leading < 0 then '-' :: Nat.toDigits 10 d.leading.natAbs
    else '+' :: Nat.toDigits 10 d.leading.natAbs
  match Nat.toDigits 10 d.digits with
  | [] => []
  | [digit] => digit :: 'e' :: exponent
  | digit :: rest => digit :: '.' :: rest ++ 'e' :: exponent

/-- Positional notation from `10 ^ (-5)` up to `10 ^ 16`, scientific notation elsewhere. -/
def text (d : Decimal) : List Char :=
  if d.digits == 0 then ['0', '.', '0']
  else if -5 ≤ d.leading && d.leading < 16 then d.positional
  else d.scientific

end Decimal

/-- The text of a floating-point number. -/
def Binary64.text (x : Binary64) : List Char :=
  if x.negative then '-' :: x.shortest.text else x.shortest.text

namespace Number

/-- The text of a number. -/
def text : Number → List Char
  | .int value => if value < 0 then '-' :: Nat.toDigits 10 value.natAbs
      else Nat.toDigits 10 value.natAbs
  | .float value => value.text

/-- The number rounded to the binary format, if that is finite. -/
def toBinary64? : Number → Option Binary64
  | .int value => Binary64.ofInt? value
  | .float value => some value

/-- Whether two numbers have the same value once both are rounded to the binary format. -/
def sameValue (x y : Number) : Bool :=
  match x.toBinary64?, y.toBinary64? with
  | some x, some y => x.sameValue y
  | _, _ => x == y

end Number

end ReleaseAnalysis
