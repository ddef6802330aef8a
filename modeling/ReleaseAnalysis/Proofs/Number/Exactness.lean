import Mathlib.Algebra.Order.Ring.Int
import ReleaseAnalysis.Proofs.Json.Scalars
import ReleaseAnalysis.Proofs.Number.Rounding

/-!
# Whole numbers that rounding tells apart

Rounding keeps the order of magnitudes (`Binary64.nearestCode_mono`), and a magnitude whose
significand has at most 53 binary digits is kept as it is (`Binary64.codeUnits_nearestCode`).
Beyond `2 ^ 53` the numbers of the format lie more than one apart, so neighbouring whole numbers may
be rounded to the same.

Two whole numbers of 64 bits have the same value exactly when they are rounded to the same number
(`Number.sameValue_int_iff`). These are the equal ones if both are representable
(`Number.ofInt?_eq_iff_of_representable`), or if one of them is below `2 ^ 53`
(`Number.ofInt?_eq_iff_of_small`).
-/

set_option autoImplicit false

namespace ReleaseAnalysis

namespace Binary64

variable {first second den units : Nat}

theorem blockSize_eq : blockSize = 4503599627370496 := rfl

theorem unitsPerOne_eq : unitsPerOne = 2 ^ 1074 := by decide +kernel

/-! ## The nearest whole number -/

theorem div_le_roundHalfEven (num den : Nat) : num / den ≤ roundHalfEven num den := by
  simp only [roundHalfEven]
  split
  · exact Nat.le_refl _
  · split
    · exact Nat.le_succ _
    · exact Nat.le_add_right _ _

theorem roundHalfEven_le (num den : Nat) : roundHalfEven num den ≤ num / den + 1 := by
  simp only [roundHalfEven]
  split
  · exact Nat.le_succ _
  · split
    · exact Nat.le_refl _
    · have parity := Nat.mod_lt (num / den) Nat.two_pos
      omega

theorem roundHalfEven_of_dvd (positive : 0 < den) (divides : den ∣ units) :
    roundHalfEven units den = units / den := by
  simp only [roundHalfEven, Nat.mod_eq_zero_of_dvd divides, Nat.mul_zero, if_pos positive]

/-- Rounding to a whole number keeps the order. -/
theorem roundHalfEven_mono (less : first ≤ second) :
    roundHalfEven first den ≤ roundHalfEven second den := by
  rcases Nat.lt_or_eq_of_le (Nat.div_le_div_right (c := den) less) with smaller | same
  · calc roundHalfEven first den ≤ first / den + 1 := roundHalfEven_le first den
      _ ≤ second / den := smaller
      _ ≤ roundHalfEven second den := div_le_roundHalfEven second den
  · -- The quotients agree, so the remainders are in order and decide.
    have remainders : first % den ≤ second % den := by
      have whole := Nat.div_add_mod first den
      have other := Nat.div_add_mod second den
      rw [same] at whole
      omega
    simp only [roundHalfEven, same]
    split_ifs <;> omega

/-! ## The nearest magnitude -/

/-- How many binary places beyond the significand a magnitude has. -/
def placesBeyond (units : Nat) : Nat := Nat.log2 units - 52

theorem nearestCode_one (units : Nat) :
    nearestCode units 1 =
      placesBeyond units * blockSize + roundHalfEven units (2 ^ placesBeyond units) := by
  rw [nearestCode, Nat.div_one, Nat.one_mul]
  rfl

/-- Without the places beyond the significand less than two blocks are left. -/
theorem div_lt_two_blocks (units : Nat) : units / 2 ^ placesBeyond units < 2 * blockSize := by
  have bound : units < 2 ^ (placesBeyond units + 53) := by
    refine Nat.lt_of_lt_of_le Nat.lt_log2_self (Nat.pow_le_pow_right Nat.two_pos ?_)
    rw [placesBeyond]
    omega
  rw [Nat.pow_add, Nat.mul_comm] at bound
  exact Nat.div_lt_of_lt_mul (Nat.mul_comm _ _ ▸ bound)

/-- A magnitude with places beyond the significand fills a block without them. -/
theorem block_le_div (beyond : placesBeyond units ≠ 0) :
    blockSize ≤ units / 2 ^ placesBeyond units := by
  have bound : 2 ^ (52 + placesBeyond units) ≤ units := by
    have large : 52 < Nat.log2 units := by
      rw [placesBeyond] at beyond
      omega
    have nonzero : units ≠ 0 := by
      rintro rfl
      cases large
    have exponent : 52 + placesBeyond units = Nat.log2 units := by
      rw [placesBeyond]
      omega
    rw [exponent]
    exact Nat.log2_self_le nonzero
  rw [Nat.pow_add] at bound
  exact (Nat.le_div_iff_mul_le (Nat.two_pow_pos _)).mpr bound

theorem placesBeyond_mono (less : first ≤ second) : placesBeyond first ≤ placesBeyond second := by
  rw [placesBeyond, placesBeyond]
  by_cases zero : first = 0
  · subst zero
    exact Nat.zero_le _
  · have nonzero : second ≠ 0 := by omega
    have logs : Nat.log2 first ≤ Nat.log2 second :=
      (Nat.le_log2 nonzero).mpr (Nat.le_trans (Nat.log2_self_le zero) less)
    omega

/-- **Rounding keeps the order of magnitudes.** -/
theorem nearestCode_mono (less : first ≤ second) : nearestCode first 1 ≤ nearestCode second 1 := by
  rw [nearestCode_one, nearestCode_one]
  rcases Nat.lt_or_eq_of_le (placesBeyond_mono less) with smaller | same
  · -- At most the first code of the next block is reached, and the larger one starts there.
    have upper := roundHalfEven_le first (2 ^ placesBeyond first)
    have inside := div_lt_two_blocks first
    have lower := div_le_roundHalfEven second (2 ^ placesBeyond second)
    have beyond : placesBeyond second ≠ 0 := by omega
    have filled := block_le_div beyond
    rw [blockSize_eq] at *
    omega
  · rw [same]
    exact Nat.add_le_add_left (roundHalfEven_mono less) _

/-! ## Magnitudes that are kept -/

/-- A magnitude with a significand of at most 53 binary digits. -/
def Representable (units : Nat) : Prop :=
  ∃ significand places, significand < 2 * blockSize ∧ units = significand * 2 ^ places

theorem representable_of_lt (small : units < 2 * blockSize) : Representable units :=
  ⟨units, 0, small, (Nat.mul_one units).symm⟩

/-- The code in a block stands for its significand with the places of the block. -/
theorem codeUnits_add {places significand : Nat} (filled : places ≠ 0 → blockSize ≤ significand)
    (inside : significand < 2 * blockSize) :
    codeUnits (places * blockSize + significand) = significand * 2 ^ places := by
  have shift : codeShift (places * blockSize + significand) = places := by
    rw [codeShift]
    rw [blockSize_eq] at *
    by_cases none : places = 0 <;> omega
  have digits : codeSignificand (places * blockSize + significand) = significand := by
    rw [codeSignificand]
    rw [blockSize_eq] at *
    by_cases none : places = 0 <;> split <;> omega
  rw [codeUnits, shift, digits]
  rfl

/-- A representable magnitude has no digit among the places beyond the significand. -/
theorem Representable.dvd (representable : Representable units) :
    2 ^ placesBeyond units ∣ units := by
  obtain ⟨significand, places, small, rfl⟩ := representable
  by_cases zero : significand = 0
  · subst zero
    rw [Nat.zero_mul]
    exact Nat.dvd_zero _
  · have nonzero : significand * 2 ^ places ≠ 0 :=
      Nat.mul_ne_zero zero (Nat.ne_of_gt (Nat.two_pow_pos places))
    have size : significand * 2 ^ places < 2 ^ (53 + places) := by
      rw [Nat.pow_add]
      exact Nat.mul_lt_mul_of_pos_right small (Nat.two_pow_pos places)
    have few : placesBeyond (significand * 2 ^ places) ≤ places := by
      have logs := (Nat.log2_lt nonzero).mpr size
      rw [placesBeyond]
      omega
    exact Nat.dvd_mul_left_of_dvd (Nat.pow_dvd_pow 2 few) significand

/-- **The code nearest to a representable magnitude stands for the magnitude.** -/
theorem codeUnits_nearestCode (representable : Representable units) :
    codeUnits (nearestCode units 1) = units := by
  have divides := representable.dvd
  rw [nearestCode_one, roundHalfEven_of_dvd (Nat.two_pow_pos _) divides,
    codeUnits_add block_le_div (div_lt_two_blocks units), Nat.div_mul_cancel divides]

/-! ## Whole numbers -/

/-- The code of the magnitude nearest to a whole number. -/
def wholeCode (n : Nat) : Nat := nearestCode (n * unitsPerOne) 1

theorem wholeCode_mono (less : first ≤ second) : wholeCode first ≤ wholeCode second :=
  nearestCode_mono (Nat.mul_le_mul_right unitsPerOne less)

/-- Whole numbers up to `2 ^ 64` are rounded to finite numbers. -/
theorem wholeCode_lt {n : Nat} (bounded : n ≤ 2 ^ 64) : wholeCode n < codeBound :=
  Nat.lt_of_le_of_lt (wholeCode_mono bounded) (by decide +kernel)

/-- Only zero is rounded to zero. -/
theorem wholeCode_eq_zero_iff {n : Nat} : wholeCode n = 0 ↔ n = 0 := by
  constructor
  · intro zero
    by_contra positive
    have least : wholeCode 1 ≤ wholeCode n := wholeCode_mono (Nat.one_le_iff_ne_zero.mpr positive)
    have unit : wholeCode 1 ≠ 0 := by decide +kernel
    omega
  · rintro rfl
    decide +kernel

theorem Representable.inUnits {n : Nat} (representable : Representable n) :
    Representable (n * unitsPerOne) := by
  obtain ⟨significand, places, small, rfl⟩ := representable
  refine ⟨significand, places + 1074, small, ?_⟩
  rw [Nat.pow_add, Nat.mul_assoc, unitsPerOne_eq]

/-- Representable whole numbers are rounded to different magnitudes. -/
theorem eq_of_wholeCode_eq (representable : Representable first) (other : Representable second)
    (same : wholeCode first = wholeCode second) : first = second := by
  have units := congrArg codeUnits same
  rw [wholeCode, wholeCode, codeUnits_nearestCode representable.inUnits,
    codeUnits_nearestCode other.inUnits] at units
  exact Nat.eq_of_mul_eq_mul_right (by decide +kernel) units

/-- A whole number below `2 ^ 53` is rounded to another magnitude than any other whole number. -/
theorem eq_of_wholeCode_eq_of_lt (small : first < 2 * blockSize)
    (same : wholeCode first = wholeCode second) : first = second := by
  have representable := representable_of_lt small
  rcases Nat.lt_or_ge second (2 * blockSize) with also | large
  · exact eq_of_wholeCode_eq representable (representable_of_lt also) same
  · -- The bound itself is representable and lies between the two.
    have bound : Representable (2 * blockSize) := ⟨1, 53, by decide, by decide⟩
    have below : wholeCode first ≤ wholeCode (2 * blockSize) := wholeCode_mono (Nat.le_of_lt small)
    have above : wholeCode (2 * blockSize) ≤ wholeCode second := wholeCode_mono large
    have reached := eq_of_wholeCode_eq representable bound (by omega)
    omega

/-- A whole number has a nearest number when its magnitude has. -/
theorem ofInt?_eq_some {value : Int} (finite : wholeCode value.natAbs < codeBound) :
    ofInt? value = some ⟨value < 0, wholeCode value.natAbs, finite⟩ :=
  dif_pos finite

theorem ofInt?_eq_iff {a b : Int} (finite : wholeCode a.natAbs < codeBound)
    (alsoFinite : wholeCode b.natAbs < codeBound) :
    ofInt? a = ofInt? b ↔ (a < 0 ↔ b < 0) ∧ wholeCode a.natAbs = wholeCode b.natAbs := by
  rw [ofInt?_eq_some finite, ofInt?_eq_some alsoFinite]
  simp

end Binary64

/-! ## Whole numbers of 64 bits -/

namespace Number

variable {a b : Int}

/-- A whole number that the reader keeps: it fits 64 bits, with or without a sign. -/
abbrev Kept (value : Int) : Prop := (Scalar.number (.int value)).Fits

theorem Kept.natAbs_le (kept : Kept a) : a.natAbs ≤ 2 ^ 64 := by
  have bounds : -(2 ^ 63 : Int) ≤ a ∧ a ≤ 2 ^ 64 - 1 := kept
  omega

/-- **Whole numbers of 64 bits have the same value when they are rounded to the same number.** -/
theorem sameValue_int_iff (kept : Kept a) (alsoKept : Kept b) :
    (int a).sameValue (int b) = true ↔ Binary64.ofInt? a = Binary64.ofInt? b := by
  rw [sameValue, toBinary64?, toBinary64?,
    Binary64.ofInt?_eq_some (Binary64.wholeCode_lt kept.natAbs_le),
    Binary64.ofInt?_eq_some (Binary64.wholeCode_lt alsoKept.natAbs_le)]
  change Binary64.sameValue _ _ = true ↔ _
  rw [Binary64.sameValue, Bool.or_eq_true, beq_iff_eq, Option.some.injEq, or_iff_left_iff_imp,
    Bool.and_eq_true]
  -- Two whole numbers that are rounded to zero are zero themselves, with the same sign.
  rintro ⟨zero, alsoZero⟩
  have first := Binary64.wholeCode_eq_zero_iff.mp (beq_iff_eq.mp zero)
  have second := Binary64.wholeCode_eq_zero_iff.mp (beq_iff_eq.mp alsoZero)
  obtain rfl := Int.natAbs_eq_zero.mp first
  obtain rfl := Int.natAbs_eq_zero.mp second
  rfl

theorem eq_of_ofInt?_eq (kept : Kept a) (alsoKept : Kept b)
    (apart : Binary64.wholeCode a.natAbs = Binary64.wholeCode b.natAbs → a.natAbs = b.natAbs)
    (same : Binary64.ofInt? a = Binary64.ofInt? b) : a = b := by
  obtain ⟨sign, code⟩ := (Binary64.ofInt?_eq_iff (Binary64.wholeCode_lt kept.natAbs_le)
    (Binary64.wholeCode_lt alsoKept.natAbs_le)).mp same
  have magnitude := apart code
  omega

/-- **Representable whole numbers are rounded to different numbers.** -/
theorem ofInt?_eq_iff_of_representable (kept : Kept a) (alsoKept : Kept b)
    (representable : Binary64.Representable a.natAbs)
    (other : Binary64.Representable b.natAbs) :
    Binary64.ofInt? a = Binary64.ofInt? b ↔ a = b :=
  ⟨eq_of_ofInt?_eq kept alsoKept (Binary64.eq_of_wholeCode_eq representable other), congrArg _⟩

/-- **A whole number below `2 ^ 53` is rounded to another number than any other one.** -/
theorem ofInt?_eq_iff_of_small (kept : Kept a) (alsoKept : Kept b) (small : a.natAbs < 2 ^ 53) :
    Binary64.ofInt? a = Binary64.ofInt? b ↔ a = b :=
  ⟨eq_of_ofInt?_eq kept alsoKept (Binary64.eq_of_wholeCode_eq_of_lt small), congrArg _⟩

end Number
end ReleaseAnalysis
