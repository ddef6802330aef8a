import ReleaseAnalysis.Number.Basic

/-!
# Number literals

A number literal is read in two steps: its spelling is taken apart, then its value is computed.

A literal without fraction and exponent that fits 64 bits is a whole number. Every other literal
is a floating-point number. Its digits are gathered into a significand of 64 bits; digits that no
longer fit are dropped, and the significand is then multiplied or divided by a power of ten
(`scaled`). That makes two roundings, so the result is not always the number nearest to the
literal.
-/

set_option autoImplicit false

namespace ReleaseAnalysis

/-- The spelling of a number: the digits before and after the point, and the sign and digits of
the exponent. -/
structure NumberLiteral where
  negative : Bool
  whole : List Char
  fraction : List Char
  exponent : Option (Bool × List Char)

namespace NumberLiteral

/-- The digits at the start of a text, at least one, and the rest. -/
def digits (input : List Char) : Option (List Char × List Char) :=
  match input.takeWhile Char.isDigit with
  | [] => none
  | found => some (found, input.dropWhile Char.isDigit)

/-- The digits after a point, none if there is no point, and the rest. -/
def readFraction : List Char → Option (List Char × List Char)
  | '.' :: input => digits input
  | input => some ([], input)

/-- The sign and digits of an exponent whose mark has been read. -/
def readSigned : List Char → Option (Option (Bool × List Char) × List Char)
  | '-' :: input => (digits input).map fun (found, rest) => (some (true, found), rest)
  | '+' :: input => (digits input).map fun (found, rest) => (some (false, found), rest)
  | input => (digits input).map fun (found, rest) => (some (false, found), rest)

/-- The exponent, if there is one, and the rest. -/
def readExponent : List Char → Option (Option (Bool × List Char) × List Char)
  | 'e' :: input => readSigned input
  | 'E' :: input => readSigned input
  | input => some (none, input)

/-- The spelling of a number whose sign has been read; the digits before the point start with a
zero only if they are a single zero. -/
def readUnsigned (negative : Bool) (input : List Char) : Option (NumberLiteral × List Char) := do
  let (whole, rest) ← digits input
  guard (whole.head? ≠ some '0' ∨ whole.length = 1)
  let (fraction, rest) ← readFraction rest
  let (exponent, rest) ← readExponent rest
  return (⟨negative, whole, fraction, exponent⟩, rest)

/-- The spelling of a number at the start of a text, and the rest. -/
def read : List Char → Option (NumberLiteral × List Char)
  | '-' :: input => readUnsigned true input
  | input => readUnsigned false input

/-- The largest significand. -/
def significandMax : Nat := 0xFFFFFFFFFFFFFFFF

/-- The largest magnitude of a negative integer. -/
def negativeMax : Nat := 0x8000000000000000

/-- Appends digits to a significand as long as it fits; also counts the digits left over. -/
def gather (significand : Nat) : List Char → Nat × Nat
  | [] => (significand, 0)
  | digit :: rest =>
    let next := 10 * significand + (digit.toNat - '0'.toNat)
    if next ≤ significandMax then gather next rest else (significand, rest.length + 1)

/-- A number divided by a power of ten; a power beyond the largest finite one is taken in steps,
each rounded, until nothing is left. -/
def scaledDown (x : Binary64) (exponent : Nat) : Option Binary64 :=
  if exponent ≤ 308 then do x.div? (← Binary64.powerOfTen? exponent)
  else if x.isZero then some x
  else do scaledDown (← x.div? (← Binary64.powerOfTen? 308)) (exponent - 308)
termination_by exponent

/-- A significand times a power of ten, if that is finite. -/
def scaled (significand : Nat) (exponent : Int) : Option Binary64 := do
  let x ← Binary64.ofNat? significand
  if exponent < 0 then scaledDown x exponent.natAbs
  else if exponent ≤ 308 then x.mul? (← Binary64.powerOfTen? exponent.toNat)
  else if x.isZero then some x
  else none

/-- The written exponent, zero if there is none. -/
def exponentValue (literal : NumberLiteral) : Int :=
  match literal.exponent with
  | none => 0
  | some (negative, found) =>
    let magnitude : Int := Nat.ofDigitChars 10 found 0
    if negative then -magnitude else magnitude

/-- The value of a whole-number literal: an integer if it fits, negative zero and what lies below
the integers a floating-point number. -/
def wholeValue (negative : Bool) (significand : Nat) : Option Number :=
  if !negative then some (.int significand)
  else if significand = 0 ∨ negativeMax < significand then
    (Binary64.ofNat? significand).map fun x => .float x.neg
  else some (.int (-significand))

/-- The value of a literal, if it is finite. -/
def value (literal : NumberLiteral) : Option Number :=
  let (significand, droppedWhole) := gather 0 literal.whole
  if literal.fraction = [] ∧ literal.exponent = none ∧ droppedWhole = 0 then
    wholeValue literal.negative significand
  else
    let (significand, droppedFraction) := gather significand literal.fraction
    let kept := literal.fraction.length - droppedFraction
    (scaled significand (droppedWhole - kept + literal.exponentValue)).map fun x =>
      .float (if literal.negative then x.neg else x)

/-! ## A literal takes at least one character -/

theorem length_digits_lt {input found rest : List Char}
    (read : digits input = some (found, rest)) : rest.length < input.length := by
  unfold digits at read
  have split :
      (input.takeWhile Char.isDigit ++ input.dropWhile Char.isDigit).length = input.length :=
    congrArg List.length List.takeWhile_append_dropWhile
  rw [List.length_append] at split
  cases taken : input.takeWhile Char.isDigit with
  | nil => simp [taken] at read
  | cons first others =>
    simp only [taken, Option.some.injEq, Prod.mk.injEq] at read
    rw [taken, List.length_cons] at split
    rw [← read.2]
    omega

theorem length_readFraction_le {input found rest : List Char}
    (read : readFraction input = some (found, rest)) :
    rest.length ≤ input.length := by
  unfold readFraction at read
  split at read
  · have := length_digits_lt read
    simp only [List.length_cons]
    omega
  · simp only [Option.some.injEq, Prod.mk.injEq] at read
    exact Nat.le_of_eq (congrArg List.length read.2.symm)

theorem length_readSigned_lt {input rest : List Char} {found : Option (Bool × List Char)}
    (read : readSigned input = some (found, rest)) : rest.length < input.length := by
  unfold readSigned at read
  split at read <;>
  · obtain ⟨⟨digits, others⟩, equal, shape⟩ := Option.map_eq_some_iff.1 read
    have := length_digits_lt equal
    grind

theorem length_readExponent_le {input rest : List Char} {found : Option (Bool × List Char)}
    (read : readExponent input = some (found, rest)) :
    rest.length ≤ input.length := by
  unfold readExponent at read
  split at read
  · have := length_readSigned_lt read
    grind
  · have := length_readSigned_lt read
    grind
  · grind

theorem length_readUnsigned_lt {negative : Bool} {input rest : List Char} {literal : NumberLiteral}
    (read : readUnsigned negative input = some (literal, rest)) :
    rest.length < input.length := by
  obtain ⟨⟨whole, first⟩, hw, read⟩ := Option.bind_eq_some_iff.1 read
  obtain ⟨_, -, read⟩ := Option.bind_eq_some_iff.1 read
  obtain ⟨⟨fraction, second⟩, hf, read⟩ := Option.bind_eq_some_iff.1 read
  obtain ⟨⟨exponent, third⟩, he, shape⟩ := Option.bind_eq_some_iff.1 read
  have equal : third = rest := congrArg Prod.snd (Option.some.inj shape)
  have := length_digits_lt hw
  have := length_readFraction_le hf
  have := length_readExponent_le he
  rw [← equal]
  omega

theorem length_read_lt {input rest : List Char} {literal : NumberLiteral}
    (read : read input = some (literal, rest)) : rest.length < input.length := by
  unfold NumberLiteral.read at read
  split at read
  · have := length_readUnsigned_lt read
    grind
  · exact length_readUnsigned_lt read

end NumberLiteral

end ReleaseAnalysis
