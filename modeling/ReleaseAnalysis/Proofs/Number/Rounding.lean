import Mathlib.Data.List.Basic
import ReleaseAnalysis.Number.Basic

/-!
# Numbers up to rounding

Two numbers are compared by what they are rounded to, and zero has one value whatever its sign. So
every number has a representative (`Number.rounded`), and numbers have the same value exactly when
their representatives are equal (`Number.sameValue_iff`).
-/

set_option autoImplicit false

namespace ReleaseAnalysis

/-! ## One number for each value -/

namespace Binary64

variable {x y : Binary64}

/-- The number itself, and zero without a sign. -/
def unsignedZero (x : Binary64) : Binary64 := if x.isZero then zero else x

/-- Two numbers have the same value when they are equal up to the sign of zero. -/
theorem sameValue_iff : x.sameValue y = true ↔ x.unsignedZero = y.unsignedZero := by
  have isZero_zero : zero.isZero = true := rfl
  unfold sameValue unsignedZero
  by_cases first : x.isZero = true
  · by_cases second : y.isZero = true
    · simp [first, second]
    · have different : zero ≠ y := fun same => second (same ▸ isZero_zero)
      have other : x ≠ y := fun same => second (same ▸ first)
      simp [first, second, different, other]
  · by_cases second : y.isZero = true
    · have different : x ≠ zero := fun same => first (same ▸ isZero_zero)
      have other : x ≠ y := fun same => first (same ▸ second)
      simp [first, second, different, other]
    · simp [first, second]

end Binary64

namespace Number

variable {x y : Number}

/-- The floating-point number that a number is rounded to, if it is finite. -/
def rounded (x : Number) : Number :=
  match x.toBinary64? with
  | some value => .float value.unsignedZero
  | none => x

theorem exists_int_of_toBinary64? (infinite : x.toBinary64? = none) : ∃ value, x = .int value := by
  cases x with
  | int value => exact ⟨value, rfl⟩
  | float value => cases infinite

/-- **Two numbers have the same value when they are rounded to the same number.** -/
theorem sameValue_iff : x.sameValue y = true ↔ x.rounded = y.rounded := by
  unfold sameValue rounded
  cases first : x.toBinary64? with
  | some value =>
    cases second : y.toBinary64? with
    | some other => simp [Binary64.sameValue_iff]
    | none =>
      obtain ⟨whole, rfl⟩ := exists_int_of_toBinary64? second
      have different : x ≠ .int whole := by
        rintro rfl
        rw [first] at second
        cases second
      simp [different]
  | none =>
    obtain ⟨whole, rfl⟩ := exists_int_of_toBinary64? first
    cases second : y.toBinary64? with
    | some other =>
      have different : .int whole ≠ y := by
        rintro rfl
        rw [first] at second
        cases second
      simp [different]
    | none => simp

end Number
end ReleaseAnalysis
