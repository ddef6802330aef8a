import ReleaseAnalysis.Toml.Text
import ReleaseAnalysis.Toml.Value

/-!
# Numbers of a configuration document

A whole number has 64 bits and may be written in base 10, 16, 8 or 2. Every other number is the
floating-point number nearest to what is written. One above the largest finite number is refused;
one below the least is the negative infinity, which like the written infinities is no finite number.
Single underscores may stand between digits.
-/

set_option autoImplicit false

namespace ReleaseAnalysis

namespace Toml

open Reading

/-- Reads digits with underscores between them, which are left out. -/
def readDigits (isDigit : Char → Bool) : Reading (List Char) := do
  let first ← take isDigit
  let others ← collect (do
    if ← accept "_" then return some (← take isDigit)
    else (do return some (← take isDigit)) <|> return none)
  return first :: others

/-- Reads a plus or a minus, if there is one, and says whether the number is negative. -/
def readSign : Reading Bool := do
  if ← accept "-" then return true
  else
    let _ ← accept "+"
    return false

/-- The first magnitude that no positive whole number of 64 bits has; a negative one may have it. -/
def wholeBound : Nat := Nat.pow 2 63

/-- The whole number of a sign and a magnitude, if it has 64 bits. -/
def wholeNumber (negative : Bool) (magnitude : Nat) : Option Value :=
  if negative then if magnitude ≤ wholeBound then some (.integer (-magnitude)) else none
  else if magnitude < wholeBound then some (.integer magnitude)
  else none

/-- Reads a whole number in another base. -/
def readInBase (base : Nat) (isDigit : Char → Bool) : Reading Value := do
  liftM (wholeNumber false (numberOf base (← readDigits isDigit)))

/-- The number nearest to a decimal number; what lies far outside the range of numbers is not
computed. -/
def nearest (negative : Bool) (digits : Nat) (exponent : Int) : Option Binary64 :=
  let leading := exponent + (Nat.toDigits 10 digits).length
  if digits = 0 ∨ leading < -400 then Binary64.ofRatio negative 0 1
  else if 400 < leading then none
  else Binary64.ofRatio negative (digits * Nat.pow 10 exponent.toNat) (Nat.pow 10 (-exponent).toNat)

/-- The floating-point number of a decimal number. -/
def floatNumber (negative : Bool) (digits : List Char) (exponent : Int) : Option Value :=
  match nearest negative (numberOf 10 digits) exponent with
  | some value => some (.float value)
  | none => if negative then some .notFinite else none

/-- Reads the digits behind a point, if there is one. -/
def readPlaces : Reading (List Char) := do
  if ← accept "." then readDigits Char.isDigit else return []

/-- Reads an exponent, if there is one. -/
def readExponent : Reading (Option Int) := do
  match ← peek? with
  | some c =>
    if c = 'e' ∨ c = 'E' then
      let _ ← take fun _ => true
      let negative ← readSign
      let magnitude : Int := numberOf 10 (← readDigits Char.isDigit)
      return some (if negative then -magnitude else magnitude)
    else return none
  | none => return none

/-- Reads a number in base 10 whose sign has been read. Only a single zero may stand for the digits
before the point if they begin with a zero. -/
def readDecimal (negative : Bool) : Reading Value := do
  let whole ← if (← peek?) = some '0' then takeExactly (· == '0') 1 else readDigits Char.isDigit
  let places ← readPlaces
  match places, ← readExponent with
  | [], none => liftM (wholeNumber negative (numberOf 10 whole))
  | places, exponent =>
    liftM (floatNumber negative (whole ++ places) (exponent.getD 0 - places.length))

/-- Reads a number. -/
def readNumber : Reading Value := do
  if ← accept "0x" then readInBase 16 isHexDigit
  else if ← accept "0o" then readInBase 8 fun c => '0' ≤ c && c ≤ '7'
  else if ← accept "0b" then readInBase 2 fun c => c == '0' || c == '1'
  else
    let negative ← readSign
    if (← accept "inf") || (← accept "nan") then return .notFinite
    else readDecimal negative

end Toml

end ReleaseAnalysis
