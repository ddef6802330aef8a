import ReleaseAnalysis.Proofs.Pattern.Compilation
import ReleaseAnalysis.Proofs.Ranking.Findings

/-!
# What a resolution does at one rule

For a commit every rule is a finding: nothing if it does not match, its release if it matches,
and an error if it is at fault, either because it cannot be tested or because it matches and its
release is not in the ranking (`RuleFault`). Which error it is depends on the rule alone.

A resolution goes on from a pending release, one that is recognized and not the highest. At each
rule it ends in the error of the rule (`resolveFrom_of_error`), ends with the highest release type
(`resolveFrom_of_highest`), or goes on from a pending release (`resolveFrom_of_other`). The
release that a whole resolution yields is the conclusion from the findings
(`outcome_resolve`).
-/

set_option autoImplicit false

namespace ReleaseAnalysis

namespace Recorded

variable {ε κ α : Type}

@[simp] theorem outcome_after (earlier : List ε) (run : Recorded ε κ α) :
    (run.after earlier).outcome = run.outcome := rfl

end Recorded

/-- Whether a rule matches a commit. A rule that cannot be tested does not. -/
def Rule.hits (rule : Rule) (commit : Commit) : Bool :=
  match rule.matches commit with
  | .ok hit => hit
  | .error _ => false

theorem Rule.hits_iff {rule : Rule} {commit : Commit} :
    rule.hits commit = true ↔ rule.matches commit = .ok true := by
  unfold Rule.hits
  cases rule.matches commit with
  | ok hit => simp
  | error cause => simp

namespace Ranking

variable {ranking : Ranking} {commit : Commit} {rule : Rule} {cause : AnalysisError}
  {best release : Option String} {matched : Nat} {rest : List Rule}

/-! ## Findings of rules -/

/-- What a rule contributes for a commit. -/
def finding (ranking : Ranking) (commit : Commit) (rule : Rule) : Finding :=
  match rule.matches commit with
  | .error cause => .error cause
  | .ok false => .ok none
  | .ok true =>
    match ranking.check rule.release with
    | .ok () => .ok rule.release
    | .error fault => .error (.configuration fault)

/-- A rule is at fault for a commit with an error that names it: a field of it does not compile, or
it matches and its release is not in the ranking. -/
inductive RuleFault (ranking : Ranking) (commit : Commit) (rule : Rule) : AnalysisError → Prop
  | pattern {field reason : String}
      (untested : rule.matches commit = .error (.pattern field reason)) :
      RuleFault ranking commit rule (.pattern field reason)
  | release {id : String} (hit : rule.matches commit = .ok true) (carried : rule.release = some id)
      (unknown : id ∉ ranking.ids) :
      RuleFault ranking commit rule (.configuration (.unknownReleaseType id))

/-- A rule finds its fault. -/
theorem finding_eq_error_iff :
    ranking.finding commit rule = .error cause ↔ ranking.RuleFault commit rule cause := by
  constructor
  · intro fault
    cases tested : rule.matches commit with
    | error inner =>
      simp only [finding, tested, Except.error.injEq] at fault
      subst fault
      obtain ⟨field, reason, rfl⟩ := Rule.matches_error tested
      exact .pattern tested
    | ok hit =>
      cases hit with
      | false => simp [finding, tested] at fault
      | true =>
        cases carried : rule.release with
        | none => simp [finding, tested, carried, check] at fault
        | some id =>
          by_cases member : id ∈ ranking.ids
          · simp [finding, tested, carried, check, contains, member] at fault
          · simp only [finding, tested, carried, check_of_not_mem member,
              Except.error.injEq] at fault
            exact fault ▸ .release tested carried member
  · intro fault
    cases fault with
    | pattern untested => simp [finding, untested]
    | release hit carried unknown => simp [finding, hit, carried, check_of_not_mem unknown]

/-- A rule that is not at fault finds nothing if it does not match and else its release, which is
recognized. -/
theorem finding_eq_ok_iff :
    ranking.finding commit rule = .ok release ↔
      (rule.matches commit = .ok false ∧ release = none) ∨
        (rule.matches commit = .ok true ∧ rule.release = release ∧ ranking.Recognizes release) := by
  cases tested : rule.matches commit with
  | error inner => simp [finding, tested]
  | ok hit =>
    cases hit with
    | false => simp [finding, tested, eq_comm]
    | true =>
      cases known : ranking.check rule.release with
      | ok _ =>
        have recognizes := check_eq_ok_iff.mp known
        simp only [finding, tested, known]
        constructor
        · intro found
          have same := Except.ok.inj found
          exact .inr ⟨trivial, same, same ▸ recognizes⟩
        · rintro (⟨missed, _⟩ | ⟨_, same, _⟩)
          · cases missed
          · exact congrArg _ same
      | error fault =>
        simp only [finding, tested, known]
        constructor
        · intro found
          cases found
        · rintro (⟨missed, _⟩ | ⟨_, same, recognizes⟩)
          · cases missed
          · rw [← same, ← check_eq_ok_iff, known] at recognizes
            cases recognizes

/-- What rules find is recognized. -/
theorem recognizes_of_finding (found : ranking.finding commit rule = .ok release) :
    ranking.Recognizes release := by
  rcases finding_eq_ok_iff.mp found with ⟨_, rfl⟩ | ⟨_, _, recognizes⟩
  · exact recognizes_none
  · exact recognizes

theorem recognizes_of_mem_findings {rules : List Rule}
    (member : .ok release ∈ rules.map (ranking.finding commit)) : ranking.Recognizes release := by
  obtain ⟨rule, _, found⟩ := List.mem_map.mp member
  exact recognizes_of_finding found

/-! ## One step -/

/-- A release from which a search goes on: recognized and not the highest. -/
structure Pending (ranking : Ranking) (best : Option String) : Prop where
  recognizes : ranking.Recognizes best
  not_highest : best ≠ some ranking.highest

theorem pending_none : ranking.Pending none := ⟨recognizes_none, by simp⟩

/-- The more severe of two pending releases is pending. -/
theorem Pending.higher (pending : ranking.Pending best) (pending' : ranking.Pending release) :
    ranking.Pending (ranking.higher best release) := by
  rcases ranking.higher_eq_or best release with same | same
  · rwa [same]
  · rwa [same]

/-- The event that a rule leaves when the best release so far is given. -/
def trace (ranking : Ranking) (commit : Commit) (best : Option String) (rule : Rule) : List Event :=
  if rule.hits commit then
    match rule.release with
    | some release =>
      if ranking.severity best < ranking.severity (some release) then [.raised rule release]
      else [.superseded rule (some release) best]
    | none => [.superseded rule none best]
  else []

/-- A resolution ends at a rule at fault, without an event. -/
theorem resolveFrom_of_error (known : ranking.Recognizes best)
    (fault : ranking.finding commit rule = .error cause) :
    ranking.resolveFrom commit best matched (rule :: rest) = .error cause := by
  cases finding_eq_error_iff.mp fault with
  | pattern untested => simp only [resolveFrom, untested]
  | release hit carried unknown =>
    simp only [resolveFrom, hit, carried, outranks_of_not_mem known unknown]

/-- A resolution ends where a rule finds the highest release type. -/
theorem resolveFrom_of_highest (pending : ranking.Pending best)
    (found : ranking.finding commit rule = .ok (some ranking.highest)) :
    ranking.resolveFrom commit best matched (rule :: rest) =
      ⟨[.raised rule ranking.highest, .highestReached ranking.highest],
        .ok ⟨some ranking.highest, matched + 1⟩⟩ := by
  rcases finding_eq_ok_iff.mp found with ⟨_, absent⟩ | ⟨hit, carried, recognizes⟩
  · cases absent
  · have raises := severity_lt_highest pending.recognizes pending.not_highest
    simp only [resolveFrom, hit, carried, outranks_of_recognizes pending.recognizes recognizes,
      raises, decide_true, ↓reduceIte]

/-- A resolution goes on from any other rule. -/
theorem resolveFrom_of_other (known : ranking.Recognizes best)
    (found : ranking.finding commit rule = .ok release) (other : release ≠ some ranking.highest) :
    ranking.resolveFrom commit best matched (rule :: rest) =
      (ranking.resolveFrom commit (ranking.higher best release)
        (matched + if rule.hits commit then 1 else 0) rest).after
          (ranking.trace commit best rule) := by
  rcases finding_eq_ok_iff.mp found with ⟨missed, rfl⟩ | ⟨hit, carried, recognizes⟩
  · simp [resolveFrom, trace, Rule.hits, missed, Ranking.higher, Recorded.after]
  · have compared := outranks_of_recognizes known recognizes
    subst carried
    cases carried : rule.release with
    | none =>
      rw [carried] at compared
      simp [resolveFrom, trace, Rule.hits, hit, carried, compared, Ranking.higher]
    | some id =>
      rw [carried] at compared other
      have lower : id ≠ ranking.highest := fun same => other (congrArg some same)
      by_cases raises : ranking.severity best < ranking.severity (some id)
      · simp [resolveFrom, trace, Rule.hits, hit, carried, compared, Ranking.higher, raises, lower]
      · simp [resolveFrom, trace, Rule.hits, hit, carried, compared, Ranking.higher, raises]

/-! ## The whole resolution -/

/-- A resolution from a pending release concludes from the findings of the rules. -/
theorem outcome_resolveFrom (pending : ranking.Pending best) (rules : List Rule) :
    (ranking.resolveFrom commit best matched rules).outcome.map Resolution.release =
      ranking.conclude best (rules.map (ranking.finding commit)) := by
  induction rules generalizing best matched with
  | nil => rfl
  | cons rule rest ih =>
    rw [List.map_cons]
    cases found : ranking.finding commit rule with
    | error cause =>
      rw [resolveFrom_of_error pending.recognizes found, conclude_of_decides (decides_error cause)]
      rfl
    | ok release =>
      by_cases reached : release = some ranking.highest
      · subst reached
        rw [resolveFrom_of_highest pending found, conclude_of_decides (decides_ok.mpr rfl)]
        rfl
      · have next := pending.higher ⟨recognizes_of_finding found, reached⟩
        rw [resolveFrom_of_other pending.recognizes found reached, conclude_of_not_decides reached,
          Recorded.outcome_after, ih next]

/-- **The release that a resolution yields is concluded from the findings of the rules.** -/
theorem outcome_resolve (ranking : Ranking) (rules : List Rule) (commit : Commit) :
    (ranking.resolve rules commit).outcome.map Resolution.release =
      ranking.conclude none (rules.map (ranking.finding commit)) :=
  outcome_resolveFrom pending_none rules

end Ranking

end ReleaseAnalysis
