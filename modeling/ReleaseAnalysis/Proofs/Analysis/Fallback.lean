import ReleaseAnalysis.Proofs.Analysis.Soundness
import ReleaseAnalysis.Proofs.Resolution.Events

/-!
# When the built-in rules are asked

Whether the built-in rules are asked about a commit is decided by the number of custom rules that a
resolution counts, not by the release that it yields. With custom rules that fit the ranking this
comes to the rules themselves: as soon as one of them matches, the commit is resolved as if there
were no built-in rules (`analyzeCommit_of_hit`), and otherwise as if there were no custom ones
(`analyzeCommit_of_not_hit`).

Hence a matching custom rule without a release can keep a commit from triggering what the built-in
rules would give it. It does so exactly when no matching custom rule carries a release
(`suppresses_iff`).
-/

set_option autoImplicit false

namespace ReleaseAnalysis

/-- Every built-in rule carries a release. -/
theorem Rule.release_ne_none_of_mem_defaults {rule : Rule} (builtin : rule ∈ Rule.defaults) :
    rule.release ≠ none := by
  have carried : ∀ rule ∈ Rule.defaults, rule.release ≠ none := by decide
  exact carried rule builtin

namespace Ranking

variable {ranking : Ranking} {commit : Commit} {rule : Rule} {rules : List Rule}
  {resolution : Resolution}

/-- A rule that fits either matches a commit or does not. -/
theorem Fits.matches_eq_false (fits : ranking.Fits rule)
    (unmatched : rule.matches commit ≠ .ok true) : rule.matches commit = .ok false := by
  cases tested : rule.matches commit with
  | error cause => exact absurd tested (Rule.matches_ne_error fits.compiles)
  | ok hit =>
    cases hit with
    | false => rfl
    | true => exact absurd tested unmatched

/-- Rules of which none matches leave no trace. -/
theorem resolve_of_unmatched (missed : ∀ rule ∈ rules, rule.matches commit = .ok false) :
    ranking.resolve rules commit = .ok ⟨none, 0⟩ := by
  unfold resolve
  induction rules with
  | nil => rfl
  | cons rule rest ih =>
    obtain ⟨own, others⟩ := List.forall_mem_cons.mp missed
    simp only [resolveFrom, own]
    exact ih others

/-- Rules that fit, of which one matches, resolve to the release of a matching one that no matching
one outranks. -/
theorem highest_of_resolve (fits : ∀ rule ∈ rules, ranking.Fits rule)
    (hit : ∃ rule ∈ rules, rule.matches commit = .ok true)
    (done : (ranking.resolve rules commit).outcome = .ok resolution) :
    (∃ rule ∈ rules, rule.matches commit = .ok true ∧ rule.release = resolution.release) ∧
      ∀ rule ∈ rules, rule.matches commit = .ok true →
        ranking.outranks resolution.release rule.release = .ok false := by
  constructor
  · cases yielded : resolution.release with
    | some id => exact exists_rule_of_resolve done yielded
    | none =>
      obtain ⟨rule, listed, matched⟩ := hit
      exact ⟨rule, listed, matched, (release_eq_none_iff done).mp yielded rule listed matched⟩
  · intro rule listed matched
    have known := (fits rule listed).recognizes
    exact outranks_eq_false_iff.mpr
      ⟨recognizes_of_resolve done, known, severity_le_of_resolve done listed matched known⟩

end Ranking

namespace Analyzer

variable {analyzer : Analyzer} {config : Config} {commit : Commit} {rule : Rule}

/-! ## One of the two lists of rules -/

/-- A commit that a custom rule matches is resolved by the custom rules alone. -/
theorem analyzeCommit_of_hit (fits : ∀ rule ∈ analyzer.rules, analyzer.ranking.Fits rule)
    (hit : ∃ rule ∈ analyzer.rules, rule.matches commit = .ok true) :
    analyzer.analyzeCommit commit =
      (analyzer.ranking.resolve analyzer.rules commit).map Resolution.release := by
  obtain ⟨resolution, done⟩ := Ranking.exists_outcome_of_fits fits commit
  have counted : 0 < resolution.matched := by
    refine Nat.pos_of_ne_zero fun zero => ?_
    obtain ⟨rule, listed, matched⟩ := hit
    rw [(Ranking.matched_eq_zero_iff done).mp zero rule listed] at matched
    cases matched
  rw [analyzeCommit_of_matched done counted, Recorded.map, done]
  rfl

/-- A commit that no custom rule matches is resolved by the built-in rules alone. -/
theorem analyzeCommit_of_not_hit (fits : ∀ rule ∈ analyzer.rules, analyzer.ranking.Fits rule)
    (unmatched : ¬ ∃ rule ∈ analyzer.rules, rule.matches commit = .ok true) :
    analyzer.analyzeCommit commit =
      (analyzer.ranking.resolve Rule.defaults commit).map Resolution.release := by
  have missed : ∀ rule ∈ analyzer.rules, rule.matches commit = .ok false :=
    fun rule listed => (fits rule listed).matches_eq_false fun hit => unmatched ⟨rule, listed, hit⟩
  have silent : analyzer.ranking.resolve analyzer.rules commit = .ok ⟨none, 0⟩ :=
    Ranking.resolve_of_unmatched missed
  have done : (analyzer.ranking.resolve analyzer.rules commit).outcome = .ok ⟨none, 0⟩ := by
    rw [silent]
    rfl
  rw [analyzeCommit_of_unmatched done rfl, silent]
  rfl

/-- A commit that a custom rule matches triggers the release that the custom rules resolve to. -/
theorem exists_resolution_of_hit (fits : ∀ rule ∈ analyzer.rules, analyzer.ranking.Fits rule)
    (hit : ∃ rule ∈ analyzer.rules, rule.matches commit = .ok true) :
    ∃ resolution, (analyzer.ranking.resolve analyzer.rules commit).outcome = .ok resolution ∧
      (analyzer.analyzeCommit commit).outcome = .ok resolution.release := by
  obtain ⟨resolution, done⟩ := Ranking.exists_outcome_of_fits fits commit
  refine ⟨resolution, done, ?_⟩
  rw [analyzeCommit_of_hit fits hit, Recorded.map, done]
  rfl

/-! ## Suppression -/

/-- A rule suppresses a commit: the commit triggers no release, and an event names the rule as one
that matched it without a release. -/
def Suppresses (analyzer : Analyzer) (rule : Rule) (commit : Commit) : Prop :=
  (analyzer.analyzeCommit commit).outcome = .ok none ∧
    ∃ event ∈ (analyzer.analyzeCommit commit).entries, event.subject? = some (rule, none)

/-- A custom rule without a release suppresses exactly the commits that it matches and for which no
matching custom rule carries a release. -/
theorem suppresses_iff (fits : ∀ rule ∈ analyzer.rules, analyzer.ranking.Fits rule)
    (listed : rule ∈ analyzer.rules) (silent : rule.release = none) :
    analyzer.Suppresses rule commit ↔
      rule.matches commit = .ok true ∧
        ∀ other ∈ analyzer.rules, other.matches commit = .ok true → other.release = none := by
  constructor
  · rintro ⟨yielded, named⟩
    by_cases hit : ∃ rule ∈ analyzer.rules, rule.matches commit = .ok true
    · obtain ⟨resolution, done, same⟩ := exists_resolution_of_hit fits hit
      rw [analyzeCommit_of_hit fits hit] at named
      rw [same, Except.ok.injEq] at yielded
      exact ⟨(Ranking.exists_event_iff.mp named).2.1, (Ranking.release_eq_none_iff done).mp yielded⟩
    · rw [analyzeCommit_of_not_hit fits hit] at named
      have builtin := Ranking.mem_of_mem_passed (Ranking.exists_event_iff.mp named).1
      exact absurd silent (Rule.release_ne_none_of_mem_defaults builtin)
  · rintro ⟨matched, quiet⟩
    have hit : ∃ rule ∈ analyzer.rules, rule.matches commit = .ok true := ⟨rule, listed, matched⟩
    obtain ⟨resolution, done, same⟩ := exists_resolution_of_hit fits hit
    have absent := (Ranking.release_eq_none_iff done).mpr quiet
    have all := Ranking.passed_eq_of_resolve done (by simp [absent])
    refine ⟨by rw [same, absent], ?_⟩
    rw [analyzeCommit_of_hit fits hit]
    exact Ranking.exists_event_iff.mpr ⟨all.symm ▸ listed, matched, silent⟩

/-- **The built-in rules are asked exactly when no custom rule matches.** A commit that a custom
rule matches is resolved by the custom rules alone, to the highest release of those that match and
to none exactly when none of these carries one; the built-in rules contribute neither to the result
nor to the events. Any other commit is resolved by the built-in rules alone, with their error. A
custom rule without a release suppresses a commit exactly when it matches the commit and no
matching custom rule carries a release. -/
theorem analyzeCommit_custom_or_builtin (valid : ofConfig config = .ok analyzer)
    (commit : Commit) :
    ((∃ rule ∈ config.rules, rule.matches commit = .ok true) →
        analyzer.analyzeCommit commit =
          (analyzer.ranking.resolve config.rules commit).map Resolution.release ∧
        ∃ release, (analyzer.analyzeCommit commit).outcome = .ok release ∧
          (release = none ↔
            ∀ rule ∈ config.rules, rule.matches commit = .ok true → rule.release = none) ∧
          (∃ rule ∈ config.rules, rule.matches commit = .ok true ∧ rule.release = release) ∧
          ∀ rule ∈ config.rules, rule.matches commit = .ok true →
            analyzer.ranking.outranks release rule.release = .ok false) ∧
      ((¬ ∃ rule ∈ config.rules, rule.matches commit = .ok true) →
        analyzer.analyzeCommit commit =
          (analyzer.ranking.resolve Rule.defaults commit).map Resolution.release) ∧
      ∀ rule ∈ config.rules, rule.release = none →
        (analyzer.Suppresses rule commit ↔
          rule.matches commit = .ok true ∧
            ∀ other ∈ config.rules, other.matches commit = .ok true → other.release = none) := by
  have fits := fits_of_ofConfig valid
  rw [← (ofConfig_eq_ok_iff.mp valid).2]
  refine ⟨?_, analyzeCommit_of_not_hit fits, fun rule listed => suppresses_iff fits listed⟩
  intro hit
  obtain ⟨resolution, done, yielded⟩ := exists_resolution_of_hit fits hit
  obtain ⟨carried, highest⟩ := Ranking.highest_of_resolve fits hit done
  exact ⟨analyzeCommit_of_hit fits hit, resolution.release, yielded,
    Ranking.release_eq_none_iff done, carried, highest⟩

/-- A rule for features that carries no release. -/
def silentFeatures : Rule := (Rule.ofRelease none).withField "type" (.ofString "feat")

/-- A configuration in which documentation triggers a patch and features trigger nothing. -/
def quietConfig : Config := ⟨["major", "patch"], [Rule.ofType "patch" "docs", silentFeatures]⟩

/-- A fix with a note. -/
def breakingFix : Commit := ⟨[("notes", .array [.scalar .null]), ("type", .ofString "fix")]⟩

/-- The breaking feature is suppressed, while the breaking fix is left to the built-in rules. -/
theorem analyzeCommit_custom_or_builtin_quietConfig :
    ∃ analyzer, ofConfig quietConfig = .ok analyzer ∧
      (∃ rule ∈ quietConfig.rules, rule.matches Ranking.breakingFeature = .ok true) ∧
      (analyzer.analyzeCommit Ranking.breakingFeature).outcome = .ok none ∧
      analyzer.Suppresses silentFeatures Ranking.breakingFeature ∧
      (¬ ∃ rule ∈ quietConfig.rules, rule.matches breakingFix = .ok true) ∧
      (analyzer.analyzeCommit breakingFix).outcome = .ok (some "major") := by
  let analyzer : Analyzer :=
    ⟨⟨["major", "patch"], by decide, by decide, by decide⟩, quietConfig.rules⟩
  have valid : ofConfig quietConfig = .ok analyzer := rfl
  have listed : silentFeatures ∈ quietConfig.rules := by simp [quietConfig]
  have matched : silentFeatures.matches Ranking.breakingFeature = .ok true := rfl
  have other : (Rule.ofType "patch" "docs").matches Ranking.breakingFeature = .ok false := rfl
  have quiet : ∀ rule ∈ quietConfig.rules, rule.matches Ranking.breakingFeature = .ok true →
      rule.release = none := by
    simp [quietConfig, other, show silentFeatures.release = none from rfl]
  have unmatched : ¬ ∃ rule ∈ quietConfig.rules, rule.matches breakingFix = .ok true := by
    simp [quietConfig, show (Rule.ofType "patch" "docs").matches breakingFix = .ok false from rfl,
      show silentFeatures.matches breakingFix = .ok false from rfl]
  obtain ⟨decided, _, suppressed⟩ :=
    analyzeCommit_custom_or_builtin valid Ranking.breakingFeature
  obtain ⟨_, release, yielded, absent, _⟩ := decided ⟨silentFeatures, listed, matched⟩
  have builtin := (analyzeCommit_custom_or_builtin valid breakingFix).2.1 unmatched
  refine ⟨analyzer, valid, ⟨silentFeatures, listed, matched⟩, ?_, ?_, unmatched, ?_⟩
  · rw [yielded, absent.mpr quiet]
  · exact (suppressed silentFeatures listed rfl).mpr ⟨matched, quiet⟩
  · rw [builtin]
    rfl

end Analyzer
end ReleaseAnalysis
