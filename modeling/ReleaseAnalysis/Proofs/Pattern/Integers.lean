import ReleaseAnalysis.Proofs.Number.Exactness
import ReleaseAnalysis.Proofs.Pattern.Acceptance

/-!
# Whole numbers in patterns

A whole number that a rule asks for accepts the whole numbers that are rounded to the same
floating-point number, at the top of a field as well as at any place in it
(`Pattern.accepts_integer_iff`). Below `2 ^ 53` this is equality, and so it is among all numbers
with at most 53 binary digits. Beyond, a pattern accepts neighbours of the number that it was made
from (`Pattern.not_forall_accepts_integer_iff`).
-/

set_option autoImplicit false

namespace ReleaseAnalysis

/-- A whole number as a value. -/
abbrev Json.ofInteger (value : Int) : Json := .scalar (.number (.int value))

variable {a b : Int} {path : String}

/-- A whole number admits another one that is rounded to the same. -/
theorem Json.ofInteger_admits_iff (kept : Number.Kept a) (alsoKept : Number.Kept b) :
    (Json.ofInteger a).Admits path (.ofInteger b) ↔ Binary64.ofInt? a = Binary64.ofInt? b := by
  have compiled : Pattern.compile path (.ofInteger a) = .ok (.literal (.number (.int a))) := rfl
  rw [← Number.sameValue_int_iff kept alsoKept, Json.admits_iff_of_compile compiled]
  rfl

namespace Pattern

/-- **Whole numbers are compared by what they are rounded to.** Let a field ask for a whole number
at a place where a value has another one, and let the pattern of the field accept the value with
something else at that place. Then it accepts the value exactly when both numbers are rounded to the
same, and so in particular when they are equal. Numbers that are representable, or one of which is
below `2 ^ 53`, are accepted only when they are equal. -/
theorem accepts_integer_iff {pattern : Pattern} {field value new : Json} {place : Json.Place}
    (normal : field.Normal) (compiled : compile path field = .ok pattern)
    (asked : field.at? place = some (.ofInteger a)) (stands : value.at? place = some (.ofInteger b))
    (kept : Number.Kept a) (alsoKept : Number.Kept b)
    (otherwise : accepts pattern (value.set place new) = true) :
    (accepts pattern value = true ↔ Binary64.ofInt? a = Binary64.ofInt? b) ∧
      (a = b → accepts pattern value = true) ∧
      (Binary64.Representable a.natAbs → Binary64.Representable b.natAbs →
        (accepts pattern value = true ↔ a = b)) ∧
      (a.natAbs < 2 ^ 53 ∨ b.natAbs < 2 ^ 53 → (accepts pattern value = true ↔ a = b)) := by
  have rounded : accepts pattern value = true ↔ Binary64.ofInt? a = Binary64.ofInt? b := by
    rw [← Json.admits_iff_of_compile compiled] at otherwise ⊢
    rw [Json.admits_iff_of_place normal asked stands otherwise]
    exact Json.ofInteger_admits_iff kept alsoKept
  rw [rounded]
  refine ⟨Iff.rfl, congrArg _, ?_, ?_⟩
  · intro representable other
    exact Number.ofInt?_eq_iff_of_representable kept alsoKept representable other
  · intro small
    rcases small with small | small
    · exact Number.ofInt?_eq_iff_of_small kept alsoKept small
    · rw [eq_comm, Number.ofInt?_eq_iff_of_small alsoKept kept small, eq_comm]

/-- A field that asks for a count in a list, beside a title. -/
def countField (count : Int) : Json :=
  .object [("counts", .array [.ofInteger count]), ("title", .ofString "Renamed")]

/-- A value with two counts, the title that is asked for and a further member. -/
def countValue (count : Int) : Json :=
  .object
    [ ("counts", .array [.ofInteger count, .ofInteger 7]), ("scope", .ofString "cli"),
      ("title", .ofString "Renamed") ]

/-- The place of the first count. -/
def countPlace : Json.Place := [.member "counts", .item 0]

/-- The pattern made from `2 ^ 53` accepts the next number as well, but not the one before. -/
theorem accepts_integer_countField :
    ∃ pattern, compile "notes" (countField (2 ^ 53)) = .ok pattern ∧
      (countField (2 ^ 53)).Normal ∧
      (∀ count, accepts pattern ((countValue count).set countPlace (.ofInteger (2 ^ 53))) = true) ∧
      accepts pattern (countValue (2 ^ 53 + 1)) = true ∧
      accepts pattern (countValue (2 ^ 53 - 1)) = false := by
  obtain ⟨pattern, compiled⟩ : ∃ pattern, compile "notes" (countField (2 ^ 53)) = .ok pattern :=
    ⟨_, rfl⟩
  have normal : (countField (2 ^ 53)).Normal := by decide
  have kept : Number.Kept (2 ^ 53) ∧ Number.Kept (2 ^ 53 + 1) ∧ Number.Kept (2 ^ 53 - 1) := by
    decide
  have asked : (countField (2 ^ 53)).at? countPlace = some (.ofInteger (2 ^ 53)) := rfl
  have accepted : accepts pattern (countValue (2 ^ 53)) = true := by
    cases compiled
    decide +kernel
  have otherwise (count : Int) :
      accepts pattern ((countValue count).set countPlace (.ofInteger (2 ^ 53))) = true := accepted
  have next := accepts_integer_iff normal compiled asked
    (rfl : (countValue (2 ^ 53 + 1)).at? countPlace = some (.ofInteger (2 ^ 53 + 1))) kept.1
    kept.2.1 (otherwise _)
  have previous := accepts_integer_iff normal compiled asked
    (rfl : (countValue (2 ^ 53 - 1)).at? countPlace = some (.ofInteger (2 ^ 53 - 1))) kept.1
    kept.2.2 (otherwise _)
  refine ⟨pattern, compiled, normal, otherwise, next.1.mpr (by decide +kernel), ?_⟩
  rw [Bool.eq_false_iff, ne_eq, previous.2.2.2 (.inr (by decide))]
  decide

/-- Not all patterns of whole numbers tell the numbers apart. -/
theorem not_forall_accepts_integer_iff :
    ¬ ∀ (a b : Int) (pattern : Pattern), Number.Kept a → Number.Kept b →
      compile "n" (.ofInteger a) = .ok pattern →
        (accepts pattern (.ofInteger b) = true ↔ a = b) := by
  intro all
  have kept : Number.Kept (2 ^ 53) ∧ Number.Kept (2 ^ 53 + 1) := by decide
  have accepted :
      accepts (.literal (.number (.int (2 ^ 53)))) (.ofInteger (2 ^ 53 + 1)) = true := by
    decide +kernel
  have same := (all _ _ _ kept.1 kept.2 rfl).mp accepted
  cases same

end Pattern
end ReleaseAnalysis
