import Mathlib.Data.Nat.Find
import ReleaseAnalysis.Proofs.Resolution.Highest

/-!
# When a resolution fails

A resolution fails exactly when some rule is at fault and no rule before it stops the resolution
by reaching the highest release type. Of several such rules the first is the one that the error
names (`outcome_of_least_faultyAt`), and the best release found so far, which is looked up first
at every rule, is never to blame.

Rules behind a stop are not looked at: a resolution that reaches the highest release type yields
the same release, the same number of matches and the same events whatever rules are appended
(`resolve_append_of_highest`).
-/

set_option autoImplicit false

namespace ReleaseAnalysis
namespace Ranking

variable {ranking : Ranking} {commit : Commit} {rule : Rule} {rules : List Rule}
  {cause : AnalysisError} {resolution : Resolution} {best : Option String} {matched place : Nat}

/-- A rule is at fault for a commit when it cannot be tested, or when it matches and carries a
release that is not in the ranking. -/
def Faulty (ranking : Ranking) (commit : Commit) (rule : Rule) : Prop :=
  (∃ cause, rule.matches commit = .error cause) ∨
    (rule.matches commit = .ok true ∧ ∃ id, rule.release = some id ∧ id ∉ ranking.ids)

/-- A rule at fault has an error that names it. -/
theorem faulty_iff :
    ranking.Faulty commit rule ↔ ∃ cause, ranking.RuleFault commit rule cause := by
  constructor
  · rintro (⟨cause, untested⟩ | ⟨hit, id, carried, unknown⟩)
    · obtain ⟨field, reason, rfl⟩ := Rule.matches_error untested
      exact ⟨_, .pattern untested⟩
    · exact ⟨_, .release hit carried unknown⟩
  · rintro ⟨cause, fault⟩
    cases fault with
    | pattern untested => exact .inl ⟨_, untested⟩
    | release hit carried unknown => exact .inr ⟨hit, _, carried, unknown⟩

/-- The rule at a place is at fault, and no rule before it reaches the highest release type. -/
def FaultyAt (ranking : Ranking) (commit : Commit) (rules : List Rule) (place : Nat) : Prop :=
  (∃ rule, rules[place]? = some rule ∧ ranking.Faulty commit rule) ∧
    ∀ earlier < place, ∀ rule, rules[earlier]? = some rule → ranking.reaches commit rule = false

/-- A rule ends a resolution when it is at fault or reaches the highest release type. -/
theorem decides_finding_iff :
    ranking.decides (ranking.finding commit rule) = true ↔
      ranking.Faulty commit rule ∨ ranking.reaches commit rule = true := by
  rw [faulty_iff, ← finding_eq_highest_iff]
  simp only [← finding_eq_error_iff]
  cases ranking.finding commit rule with
  | error cause => simp
  | ok release => simp

/-- An error is the fault of a rule, and no rule before it ends the resolution. -/
theorem outcome_eq_error_iff :
    (ranking.resolve rules commit).outcome = .error cause ↔
      ∃ (place : Nat) (rule : Rule), rules[place]? = some rule ∧
        ranking.RuleFault commit rule cause ∧
        ∀ earlier < place, ∀ other, rules[earlier]? = some other →
          ranking.decides (ranking.finding commit other) = false := by
  have concluded : (ranking.resolve rules commit).outcome = .error cause ↔
      ranking.conclude none (rules.map (ranking.finding commit)) = .error cause := by
    rw [← outcome_resolve]
    cases (ranking.resolve rules commit).outcome with
    | error inner => simp [Except.map]
    | ok resolution => simp [Except.map]
  rw [concluded, conclude_map_eq_error_iff]
  simp only [finding_eq_error_iff]

/-- The first place at fault is the one that the error names. -/
theorem outcome_of_least_faultyAt (faulty : ranking.FaultyAt commit rules place)
    (least : ∀ earlier < place, ¬ ranking.FaultyAt commit rules earlier) :
    ∃ rule cause, rules[place]? = some rule ∧ ranking.RuleFault commit rule cause ∧
      (ranking.resolve rules commit).outcome = .error cause := by
  obtain ⟨⟨rule, listed, guilty⟩, unreached⟩ := faulty
  obtain ⟨cause, fault⟩ := faulty_iff.mp guilty
  refine ⟨rule, cause, listed, fault, ?_⟩
  refine outcome_eq_error_iff.mpr ⟨place, rule, listed, fault, ?_⟩
  intro earlier less other found
  refine Bool.eq_false_iff.mpr fun decisive => ?_
  rcases decides_finding_iff.mp decisive with guilty | reached
  · refine least earlier less ⟨⟨other, found, guilty⟩, ?_⟩
    exact fun before further => unreached before (Nat.lt_trans further less)
  · have passed := unreached earlier less other found
    rw [reached] at passed
    cases passed

/-- A resolution fails exactly when some place is at fault. -/
theorem exists_error_iff_faultyAt :
    (∃ cause, (ranking.resolve rules commit).outcome = .error cause) ↔
      ∃ place, ranking.FaultyAt commit rules place := by
  constructor
  · rintro ⟨cause, failed⟩
    obtain ⟨place, rule, listed, fault, before⟩ := outcome_eq_error_iff.mp failed
    refine ⟨place, ⟨rule, listed, faulty_iff.mpr ⟨cause, fault⟩⟩, ?_⟩
    intro earlier less other found
    refine Bool.eq_false_iff.mpr fun reached => ?_
    have undecided := before earlier less other found
    rw [decides_finding_iff.mpr (.inr reached)] at undecided
    cases undecided
  · intro faulty
    classical
    obtain ⟨_, cause, _, _, failed⟩ :=
      outcome_of_least_faultyAt (Nat.find_spec faulty) fun _ less => Nat.find_min faulty less
    exact ⟨cause, failed⟩

/-! ## Behind a stop -/

theorem resolveFrom_append (pending : ranking.Pending best)
    (done : (ranking.resolveFrom commit best matched rules).outcome = .ok resolution)
    (reached : resolution.release = some ranking.highest) (more : List Rule) :
    ranking.resolveFrom commit best matched (rules ++ more) =
      ranking.resolveFrom commit best matched rules := by
  induction rules generalizing best matched with
  | nil =>
    cases done
    exact absurd reached pending.not_highest
  | cons rule rest ih =>
    rw [List.cons_append]
    cases found : ranking.finding commit rule with
    | error cause =>
      rw [resolveFrom_of_error pending.recognizes found,
        resolveFrom_of_error pending.recognizes found]
    | ok release =>
      by_cases highest : release = some ranking.highest
      · subst highest
        rw [resolveFrom_of_highest pending found, resolveFrom_of_highest pending found]
      · have next := pending.higher ⟨recognizes_of_finding found, highest⟩
        rw [resolveFrom_of_other pending.recognizes found highest, Recorded.outcome_after] at done
        rw [resolveFrom_of_other pending.recognizes found highest,
          resolveFrom_of_other pending.recognizes found highest, ih next done]

/-- Rules behind the one that reaches the highest release type make no difference. -/
theorem resolve_append_of_highest
    (done : (ranking.resolve rules commit).outcome = .ok resolution)
    (reached : resolution.release = some ranking.highest) (more : List Rule) :
    ranking.resolve (rules ++ more) commit = ranking.resolve rules commit :=
  resolveFrom_append pending_none done reached more

/-- **A resolution fails exactly when a rule is at fault before the highest release type is
reached.** The error is that of the first such rule: of the field of it that does not compile, or
of its own release. A resolution that reaches the highest release type is not changed by anything
that is appended to its rules. -/
theorem resolve_error_iff_faultyAt (ranking : Ranking) (rules : List Rule) (commit : Commit) :
    ((∃ cause, (ranking.resolve rules commit).outcome = .error cause) ↔
        ∃ place, ranking.FaultyAt commit rules place) ∧
      (∀ place, ranking.FaultyAt commit rules place →
        (∀ earlier < place, ¬ ranking.FaultyAt commit rules earlier) →
        ∃ rule cause, rules[place]? = some rule ∧ ranking.RuleFault commit rule cause ∧
          (ranking.resolve rules commit).outcome = .error cause) ∧
      ∀ resolution, (ranking.resolve rules commit).outcome = .ok resolution →
        resolution.release = some ranking.highest →
        ∀ more, ranking.resolve (rules ++ more) commit = ranking.resolve rules commit :=
  ⟨exists_error_iff_faultyAt, fun _ => outcome_of_least_faultyAt,
    fun _ => resolve_append_of_highest⟩

end Ranking
end ReleaseAnalysis
