import Mathlib.Data.List.Basic
import ReleaseAnalysis.Json.Printer
import ReleaseAnalysis.Json.Token

/-!
# Scalars are read back from their compact text

The compact text of a scalar begins with a token that is the scalar again, and what follows the
text is what is left (`Token.read_text`). Strings are taken character by character: an escaped
character is read as the character itself (`Token.readChar_escapeChar`).

A number ends where the text goes on with nothing that could continue a number literal
(`EndsNumber`). Whole numbers are read back if they fit 64 bits. Floating-point numbers are left out
here, since the value of a literal with a fraction or an exponent is rounded twice: the scalars
that are surely read back are the exact ones (`Scalar.IsExact`).
-/

set_option autoImplicit false

namespace ReleaseAnalysis

/-! ## Exact scalars -/

namespace Scalar

/-- A whole number fits 64 bits, with or without a sign; nothing is asked of other scalars. -/
def Fits : Scalar → Prop
  | .number (.int value) =>
    -(NumberLiteral.negativeMax : Int) ≤ value ∧ value ≤ NumberLiteral.significandMax
  | _ => True

/-- A floating-point number. -/
def IsFloat : Scalar → Prop
  | .number (.float _) => True
  | _ => False

/-- A scalar that is no floating-point number and, if it is a whole number, fits 64 bits. -/
structure IsExact (value : Scalar) : Prop where
  fits : value.Fits
  not_float : ¬ value.IsFloat

theorem isExact_iff {value : Scalar} : value.IsExact ↔ value.Fits ∧ ¬ value.IsFloat :=
  ⟨fun exact => ⟨exact.fits, exact.not_float⟩, fun both => ⟨both.1, both.2⟩⟩

instance : DecidablePred Fits
  | .null | .bool _ | .string _ | .number (.float _) => isTrue trivial
  | .number (.int value) =>
    inferInstanceAs (Decidable (-(NumberLiteral.negativeMax : Int) ≤ value ∧
      value ≤ NumberLiteral.significandMax))

instance : DecidablePred IsFloat
  | .null | .bool _ | .string _ | .number (.int _) => isFalse id
  | .number (.float _) => isTrue trivial

instance : DecidablePred IsExact := fun _ => decidable_of_iff _ isExact_iff.symm

end Scalar

/-! ## Whole numbers -/

/-- The text does not go on with a character that could continue a number. -/
def EndsNumber (rest : List Char) : Prop :=
  ∀ char ∈ rest.head?, char.isDigit = false ∧ char ≠ '.' ∧ char ≠ 'e' ∧ char ≠ 'E'

namespace NumberLiteral

variable {rest : List Char}

theorem digits_append {found : List Char} (nonempty : found ≠ [])
    (decimal : ∀ char ∈ found, char.isDigit = true) (ends : EndsNumber rest) :
    digits (found ++ rest) = some (found, rest) := by
  have stop : rest.takeWhile Char.isDigit = [] ∧ rest.dropWhile Char.isDigit = rest := by
    cases rest with
    | nil => exact ⟨rfl, rfl⟩
    | cons char others => simp [(ends char rfl).1]
  unfold digits
  rw [List.takeWhile_append_of_pos decimal, List.dropWhile_append_of_pos decimal, stop.1, stop.2,
    List.append_nil]
  cases found with
  | nil => exact absurd rfl nonempty
  | cons char others => rfl

/-- The digits of a number begin with a zero only if they are a single zero. -/
theorem head?_toDigits (n : Nat) :
    (Nat.toDigits 10 n).head? ≠ some '0' ∨ (Nat.toDigits 10 n).length = 1 := by
  -- Leaving out the last digit keeps the first one, unless there was only one.
  induction n using Nat.strongRecOn with
  | ind n ih =>
    by_cases small : n < 10
    · exact .inr (by rw [Nat.toDigits_of_lt_base small, List.length_singleton])
    · have split := Nat.toDigits_of_base_le (by decide) (Nat.le_of_not_lt small)
      have positive : 0 < n / 10 := by omega
      rw [split, List.head?_append_of_ne_nil _ Nat.toDigits_ne_nil]
      refine .inl ?_
      rcases ih (n / 10) (by omega) with other | single
      · exact other
      · have small' : n / 10 < 10 := by
          simpa using (Nat.length_toDigits_le_iff (by decide) Nat.one_pos).mp (Nat.le_of_eq single)
        rw [Nat.toDigits_of_lt_base small']
        simp only [List.head?_cons, ne_eq, Option.some.injEq, Nat.digitChar_eq_zero]
        omega

theorem readFraction_of_ends (ends : EndsNumber rest) : readFraction rest = some ([], rest) := by
  unfold readFraction
  split
  · exact absurd rfl (ends _ rfl).2.1
  · rfl

theorem readExponent_of_ends (ends : EndsNumber rest) : readExponent rest = some (none, rest) := by
  unfold readExponent
  split
  · exact absurd rfl (ends _ rfl).2.2.1
  · exact absurd rfl (ends _ rfl).2.2.2
  · rfl

/-- The digits of a number are a literal without fraction and exponent. -/
theorem readUnsigned_toDigits (negative : Bool) (n : Nat) (ends : EndsNumber rest) :
    readUnsigned negative (Nat.toDigits 10 n ++ rest) =
      some (⟨negative, Nat.toDigits 10 n, [], none⟩, rest) := by
  have decimal : ∀ char ∈ Nat.toDigits 10 n, char.isDigit = true := fun char member =>
    Nat.isDigit_of_mem_toDigits (by decide) (by decide) member
  unfold readUnsigned
  rw [digits_append Nat.toDigits_ne_nil decimal ends]
  simp only [bind, Option.bind, guard, head?_toDigits n, ↓reduceIte, pure,
    readFraction_of_ends ends, readExponent_of_ends ends]

/-- Digits whose value fits are all gathered. -/
theorem gather_eq (found : List Char) (significand : Nat)
    (fits : Nat.ofDigitChars 10 found significand ≤ significandMax) :
    gather significand found = (Nat.ofDigitChars 10 found significand, 0) := by
  induction found generalizing significand with
  | nil => rfl
  | cons digit others ih =>
    rw [Nat.ofDigitChars_cons] at fits ⊢
    have next : 10 * significand + (digit.toNat - '0'.toNat) ≤ significandMax := by
      rw [Nat.ofDigitChars_eq_ofDigitChars_zero] at fits
      have := Nat.le_mul_of_pos_left (10 * significand + (digit.toNat - '0'.toNat))
        (Nat.pow_pos (n := others.length) (show 0 < 10 by decide))
      omega
    rw [gather, if_pos next, ih _ fits]

theorem value_toDigits (negative : Bool) {n : Nat} (fits : n ≤ significandMax) :
    value ⟨negative, Nat.toDigits 10 n, [], none⟩ = wholeValue negative n := by
  have gathered : gather 0 (Nat.toDigits 10 n) = (n, 0) := by
    rw [gather_eq _ _ (by rwa [Nat.ofDigitChars_ten_toDigits]), Nat.ofDigitChars_ten_toDigits]
  simp only [value, gathered, and_self, ↓reduceIte]

/-- The digits of a number are read without a sign. -/
theorem read_toDigits (n : Nat) (ends : EndsNumber rest) :
    NumberLiteral.read (Nat.toDigits 10 n ++ rest) =
      some (⟨false, Nat.toDigits 10 n, [], none⟩, rest) := by
  rw [← readUnsigned_toDigits false n ends]
  cases spelled : Nat.toDigits 10 n with
  | nil => exact absurd spelled Nat.toDigits_ne_nil
  | cons first others =>
    have decimal : first.isDigit = true :=
      Nat.isDigit_of_mem_toDigits (b := 10) (n := n) (by decide) (by decide) (by simp [spelled])
    rw [List.cons_append]
    unfold NumberLiteral.read
    split
    · rename_i same
      rw [(List.cons.inj same).1] at decimal
      exact absurd decimal (by decide)
    · rfl

/-- A whole number that fits is read back from its sign and digits. -/
theorem read_text {value : Int} (fits : (Scalar.number (.int value)).Fits)
    (ends : EndsNumber rest) :
    ∃ literal, NumberLiteral.read ((Number.int value).text ++ rest) = some (literal, rest) ∧
      literal.value = some (.int value) := by
  obtain ⟨low, high⟩ := fits
  rw [Number.text]
  split
  case isTrue negative =>
    have magnitude : value.natAbs ≤ negativeMax := by omega
    have larger : negativeMax ≤ significandMax := by decide
    have inner : ¬ (value.natAbs = 0 ∨ negativeMax < value.natAbs) := by omega
    refine ⟨_, readUnsigned_toDigits true value.natAbs ends, ?_⟩
    rw [value_toDigits true (Nat.le_trans magnitude larger), wholeValue]
    simp only [Bool.not_true, Bool.false_eq_true, ↓reduceIte, inner]
    congr
    omega
  case isFalse positive =>
    refine ⟨_, read_toDigits value.natAbs ends, ?_⟩
    rw [value_toDigits false (by omega), wholeValue]
    simp only [Bool.not_false, ↓reduceIte]
    congr
    omega

/-- The text of a whole number begins with a digit or the sign. -/
theorem exists_text_eq_cons (value : Int) :
    ∃ first others, (Number.int value).text = first :: others ∧
      (first.isDigit = true ∨ first = '-') := by
  rw [Number.text]
  split
  · exact ⟨_, _, rfl, .inr rfl⟩
  · cases spelled : Nat.toDigits 10 value.natAbs with
    | nil => exact absurd spelled Nat.toDigits_ne_nil
    | cons first others =>
      exact ⟨_, _, rfl, .inl (Nat.isDigit_of_mem_toDigits (b := 10) (n := value.natAbs)
        (by decide) (by decide) (by simp [spelled]))⟩

end NumberLiteral

/-! ## Strings -/

namespace Token

open Json (escapeChar quote)

variable {rest : List Char}

theorem hexValue_digitChar : ∀ digit < 16, hexValue (Nat.digitChar digit) = some digit := by
  decide

/-- A character below U+0020 is read from its four digits. -/
theorem readEscape_of_control {char : Char} (control : char.toNat < 0x20) :
    readEscape ('u' :: '0' :: '0' :: Nat.digitChar (char.toNat / 16) ::
      Nat.digitChar (char.toNat % 16) :: rest) = some (char, rest) := by
  have zero : hexValue '0' = some 0 := by decide
  have quad : hexQuad '0' '0' (Nat.digitChar (char.toNat / 16)) (Nat.digitChar (char.toNat % 16)) =
      some char.toNat := by
    simp only [hexQuad, zero, hexValue_digitChar _ (show char.toNat / 16 < 16 by omega),
      hexValue_digitChar _ (show char.toNat % 16 < 16 by omega), bind, Option.bind, pure]
    congr
    omega
  have whole : isSurrogate char.toNat = false := by
    simp only [isSurrogate, Bool.and_eq_false_iff, decide_eq_false_iff_not]
    omega
  simp only [readEscape, readUnit, quad, Option.map_some, bind, Option.bind, whole,
    Bool.false_eq_true, ↓reduceIte, Char.ofNat_toNat]

/-- An escaped character is read as the character. -/
theorem readChar_escapeChar (char : Char) (rest : List Char) :
    readChar (escapeChar char ++ rest) = some (char, rest) := by
  unfold escapeChar
  split
  case h_8 char quotation backslash _ _ _ _ _ =>
    split
    case isTrue control => exact readEscape_of_control control
    case isFalse printed =>
      rw [List.singleton_append]
      unfold readChar
      split
      · rename_i input same
        exact absurd (List.cons.inj same).1 backslash
      · rename_i first others _ same
        obtain ⟨rfl, rfl⟩ := List.cons.inj same
        exact if_pos (Nat.le_of_not_lt printed)
      · rename_i same
        cases same
  all_goals rfl

theorem readString_of_readChar {input : List Char} {char : Char}
    (found : readChar input = some (char, rest)) (inside : input.head? ≠ some '"') :
    readString input = (readString rest).map fun (chars, rest) => (char :: chars, rest) := by
  rw [readString]
  · split
    · rename_i missed
      rw [found] at missed
      cases missed
    · rename_i same
      rw [found] at same
      cases same
      rfl
  · rintro others rfl
    exact inside rfl

/-- An escaped character does not begin with a quotation mark. -/
theorem head?_escapeChar (char : Char) (rest : List Char) :
    (escapeChar char ++ rest).head? ≠ some '"' := by
  unfold escapeChar
  split
  case h_8 char quotation _ _ _ _ _ _ =>
    split
    · simp
    · simpa using quotation
  all_goals simp

/-- Escaped characters and a quotation mark are read as the characters. -/
theorem readString_escaped (chars rest : List Char) :
    readString (chars.flatMap escapeChar ++ '"' :: rest) = some (chars, rest) := by
  induction chars with
  | nil => rw [List.flatMap_nil, List.nil_append, readString]
  | cons char others ih =>
    rw [List.flatMap_cons, List.append_assoc,
      readString_of_readChar (readChar_escapeChar char _) (head?_escapeChar char _), ih]
    rfl

/-- A quoted string is read as the string. -/
theorem read_quote (text : String) (rest : List Char) :
    Token.read (quote text ++ rest) = some (scalar (.string text), rest) := by
  have split : quote text ++ rest = '"' :: (text.toList.flatMap escapeChar ++ '"' :: rest) := by
    simp [quote]
  rw [split, Token.read, readString_escaped]
  simp

/-! ## Scalars as tokens -/

theorem read_of_number {char : Char} {input : List Char}
    (begins : char.isDigit = true ∨ char = '-') :
    Token.read (char :: input) = (do
      let (literal, rest) ← NumberLiteral.read (char :: input)
      literal.value.map fun value => (scalar (.number value), rest)) := by
  unfold Token.read
  split
  case h_11 => rfl
  all_goals
    rename_i same
    have first := (List.cons.inj same).1
    rw [first] at begins
    exact absurd begins (by decide)

/-- **An exact scalar is read back from its text.** -/
theorem read_text {value : Scalar} (whole : value.IsExact) (ends : EndsNumber rest) :
    Token.read (value.text ++ rest) = some (scalar value, rest) := by
  cases value with
  | null => rfl
  | bool flag => cases flag <;> rfl
  | string text => exact read_quote text rest
  | number number =>
    cases number with
    | float _ => exact absurd trivial whole.not_float
    | int value =>
      obtain ⟨literal, found, yields⟩ := NumberLiteral.read_text whole.fits ends
      obtain ⟨first, others, spelled, begins⟩ := NumberLiteral.exists_text_eq_cons value
      rw [spelled, List.cons_append] at found
      rw [Scalar.text, spelled, List.cons_append, read_of_number begins, found]
      simp [yields]

/-- The text of an exact scalar begins with no blank. -/
theorem exists_text_eq_cons {value : Scalar} (whole : value.IsExact) :
    ∃ first others, value.text = first :: others ∧ isBlank first = false := by
  cases value with
  | null => exact ⟨_, _, rfl, by decide⟩
  | bool flag => cases flag <;> exact ⟨_, _, rfl, by decide⟩
  | string text => exact ⟨_, _, rfl, by decide⟩
  | number number =>
    cases number with
    | float _ => exact absurd trivial whole.not_float
    | int value =>
      obtain ⟨first, others, spelled, begins⟩ := NumberLiteral.exists_text_eq_cons value
      refine ⟨first, others, spelled, ?_⟩
      cases blank : isBlank first with
      | false => rfl
      | true =>
        simp only [isBlank, Bool.or_eq_true, beq_iff_eq] at blank
        rcases blank with ((rfl | rfl) | rfl) | rfl <;> exact absurd begins (by decide)

/-- A text that begins with no blank is cut behind its first token. -/
theorem list_of_read {char : Char} {input : List Char} {token : Token}
    (printed : isBlank char = false) (found : Token.read (char :: input) = some (token, rest)) :
    list (char :: input) = token :: list rest := by
  have trimmed : (char :: input).dropWhile isBlank = char :: input := by simp [printed]
  rw [list]
  split
  · rename_i missed
    rw [trimmed] at missed
    cases missed
  · rename_i next others same
    rw [trimmed] at same
    obtain ⟨rfl, rfl⟩ := List.cons.inj same
    split
    · rename_i missed
      rw [found] at missed
      cases missed
    · rename_i other behind read
      rw [found] at read
      cases read
      rfl

theorem list_nil : list [] = [] := by
  rw [list]
  rfl

theorem list_openArray (rest : List Char) : list ('[' :: rest) = openArray :: list rest :=
  list_of_read (by decide) rfl

theorem list_closeArray (rest : List Char) : list (']' :: rest) = closeArray :: list rest :=
  list_of_read (by decide) rfl

theorem list_openObject (rest : List Char) : list ('{' :: rest) = openObject :: list rest :=
  list_of_read (by decide) rfl

theorem list_closeObject (rest : List Char) : list ('}' :: rest) = closeObject :: list rest :=
  list_of_read (by decide) rfl

theorem list_comma (rest : List Char) : list (',' :: rest) = comma :: list rest :=
  list_of_read (by decide) rfl

theorem list_colon (rest : List Char) : list (':' :: rest) = colon :: list rest :=
  list_of_read (by decide) rfl

theorem list_text {value : Scalar} (whole : value.IsExact) (ends : EndsNumber rest) :
    list (value.text ++ rest) = scalar value :: list rest := by
  obtain ⟨first, others, spelled, printed⟩ := exists_text_eq_cons whole
  have found := read_text whole ends
  rw [spelled, List.cons_append] at found ⊢
  exact list_of_read printed found

theorem list_quote (text : String) (rest : List Char) :
    list (quote text ++ rest) = scalar (.string text) :: list rest :=
  list_of_read (by decide) (read_quote text rest)

end Token

end ReleaseAnalysis
