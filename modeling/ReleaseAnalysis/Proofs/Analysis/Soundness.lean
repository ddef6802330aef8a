import ReleaseAnalysis.Proofs.Analysis.Outcome
import ReleaseAnalysis.Proofs.Config.Validation

/-!
# How the analysis of a valid configuration fails

Validation looks at the custom rules only, while an analysis also resolves the built-in rules. The
custom rules of a valid configuration cannot fail any more, and the built-in rules compile. What is
left is a built-in rule whose release type the configuration does not list: a commit that no custom
rule matches and that such a rule matches is the only cause of an error (`lacks_of_analyze`).
-/

set_option autoImplicit false

namespace ReleaseAnalysis

/-- The built-in rules carry three release types. -/
theorem Rule.release_of_mem_defaults {rule : Rule} {id : String} (builtin : rule ∈ Rule.defaults)
    (carried : rule.release = some id) : id ∈ ["major", "minor", "patch"] := by
  have listed : ∀ rule ∈ Rule.defaults, ∀ id ∈ rule.release, id ∈ ["major", "minor", "patch"] := by
    decide
  exact listed rule builtin id carried

namespace Analyzer

variable {analyzer : Analyzer} {config : Config} {commit : Commit} {commits : List Commit}
  {cause : AnalysisError}

/-! ## The analyzer of a valid configuration -/

/-- A configuration has an analyzer when it is valid; its ranking and its rules are kept. -/
theorem ofConfig_eq_ok_iff :
    ofConfig config = .ok analyzer ↔
      config.validate = .ok analyzer.ranking ∧ analyzer.rules = config.rules := by
  unfold ofConfig
  cases config.validate with
  | error fault => simp [Except.map]
  | ok ranking =>
    simp only [Except.map, Except.ok.injEq]
    constructor
    · rintro rfl
      exact ⟨rfl, rfl⟩
    · rintro ⟨same, kept⟩
      rw [same, ← kept]

theorem ids_of_ofConfig (valid : ofConfig config = .ok analyzer) :
    analyzer.ranking.ids = config.releaseTypes :=
  Ranking.ids_of_ofList (Config.validate_eq_ok_iff.mp (ofConfig_eq_ok_iff.mp valid).1).1

/-- The custom rules of a valid configuration fit its ranking. -/
theorem fits_of_ofConfig (valid : ofConfig config = .ok analyzer) :
    ∀ rule ∈ analyzer.rules, analyzer.ranking.Fits rule := by
  obtain ⟨validated, kept⟩ := ofConfig_eq_ok_iff.mp valid
  rw [kept]
  exact (Config.validate_eq_ok_iff.mp validated).2

/-! ## Failing on a commit -/

/-- The ranking lacks a release type for a commit: no custom rule matches the commit, and a
built-in rule that matches it carries the release type. -/
structure Lacks (analyzer : Analyzer) (commit : Commit) (id : String) : Prop where
  unmatched : ∀ rule ∈ analyzer.rules, rule.matches commit = .ok false
  builtin : ∃ rule ∈ Rule.defaults, rule.matches commit = .ok true ∧ rule.release = some id
  unknown : id ∉ analyzer.ranking.ids

/-- Only a release type of the built-in rules can be lacking. -/
theorem Lacks.release_mem {id : String} (lacks : analyzer.Lacks commit id) :
    id ∈ ["major", "minor", "patch"] := by
  obtain ⟨rule, builtin, _, carried⟩ := lacks.builtin
  exact Rule.release_of_mem_defaults builtin carried

/-- A resolution of the built-in rules fails at a release type only. -/
theorem ruleFault_of_resolve_defaults
    (failed : (analyzer.ranking.resolve Rule.defaults commit).outcome = .error cause) :
    ∃ id, cause = .configuration (.unknownReleaseType id) ∧ id ∉ analyzer.ranking.ids ∧
      ∃ rule ∈ Rule.defaults, rule.matches commit = .ok true ∧ rule.release = some id := by
  obtain ⟨_, rule, listed, fault, _⟩ := Ranking.outcome_eq_error_iff.mp failed
  have builtin := List.mem_of_getElem? listed
  cases fault with
  | pattern untested =>
    exact absurd untested (Rule.matches_ne_error (Rule.patterns_of_mem_defaults builtin))
  | release hit carried unknown => exact ⟨_, rfl, unknown, rule, builtin, hit, carried⟩

/-- With custom rules that fit, a commit fails only for a release type that the ranking lacks. -/
theorem lacks_of_analyzeCommit (fits : ∀ rule ∈ analyzer.rules, analyzer.ranking.Fits rule)
    (failed : (analyzer.analyzeCommit commit).outcome = .error cause) :
    ∃ id, cause = .configuration (.unknownReleaseType id) ∧ analyzer.Lacks commit id := by
  obtain ⟨resolution, custom⟩ := Ranking.exists_outcome_of_fits fits commit
  rcases Nat.eq_zero_or_pos resolution.matched with unmatched | hit
  · rw [analyzeCommit_of_unmatched custom unmatched, Recorded.outcome_after, Recorded.map] at failed
    obtain ⟨id, same, unknown, builtin⟩ := ruleFault_of_resolve_defaults (error_of_map failed)
    exact ⟨id, same, (Ranking.matched_eq_zero_iff custom).mp unmatched, builtin, unknown⟩
  · rw [analyzeCommit_of_matched custom hit] at failed
    cases failed

/-! ## Failing on a list of commits -/

/-- With custom rules that fit, an analysis fails only at its first decisive commit, for a release
type that the ranking lacks. -/
theorem lacks_of_analyze (fits : ∀ rule ∈ analyzer.rules, analyzer.ranking.Fits rule)
    (failed : (analyzer.analyze commits).outcome = .error cause) :
    ∃ id, cause = .configuration (.unknownReleaseType id) ∧
      ∃ place commit, analyzer.FirstDecisive commits place commit ∧ analyzer.Lacks commit id := by
  obtain ⟨place, commit, first, alone⟩ := exists_firstDecisive_of_error failed
  obtain ⟨id, same, lacks⟩ := lacks_of_analyzeCommit fits alone
  exact ⟨id, same, place, commit, first, lacks⟩

/-- With custom rules that fit and a ranking of the built-in release types every list of commits
can be analysed. -/
theorem exists_outcome_of_complete (fits : ∀ rule ∈ analyzer.rules, analyzer.ranking.Fits rule)
    (complete : ∀ id ∈ ["major", "minor", "patch"], id ∈ analyzer.ranking.ids)
    (commits : List Commit) : ∃ release, (analyzer.analyze commits).outcome = .ok release := by
  cases ended : (analyzer.analyze commits).outcome with
  | ok release => exact ⟨release, rfl⟩
  | error cause =>
    obtain ⟨id, _, _, _, _, lacks⟩ := lacks_of_analyze fits ended
    exact absurd (complete id lacks.release_mem) lacks.unknown

/-- **Validation is sound for every later analysis.** The only error is an unknown release type
that is one of the three built-in ones and is missing from the configuration; it arises at the
first commit that decides the analysis, which no custom rule matches and a built-in rule with that
release type does. A configuration that lists the three release types can analyse every list of
commits. -/
theorem error_of_ofConfig (valid : ofConfig config = .ok analyzer) (commits : List Commit) :
    (∀ cause, (analyzer.analyze commits).outcome = .error cause →
      ∃ id, cause = .configuration (.unknownReleaseType id) ∧
        cause.message = "Configuration error: " ++ ("Unknown release type '" ++ id ++ "'") ∧
        id ∈ ["major", "minor", "patch"] ∧ id ∉ config.releaseTypes ∧
        ∃ place commit, analyzer.FirstDecisive commits place commit ∧
          (∀ rule ∈ config.rules, rule.matches commit = .ok false) ∧
          ∃ rule ∈ Rule.defaults, rule.matches commit = .ok true ∧ rule.release = some id) ∧
      ((∀ id ∈ ["major", "minor", "patch"], id ∈ config.releaseTypes) →
        ∃ release, (analyzer.analyze commits).outcome = .ok release) := by
  have fits := fits_of_ofConfig valid
  rw [← ids_of_ofConfig valid, ← (ofConfig_eq_ok_iff.mp valid).2]
  refine ⟨?_, fun complete => exists_outcome_of_complete fits complete commits⟩
  intro cause failed
  obtain ⟨id, rfl, place, commit, first, lacks⟩ := lacks_of_analyze fits failed
  exact ⟨id, rfl, rfl, lacks.release_mem, lacks.unknown, place, commit, first, lacks.unmatched,
    lacks.builtin⟩

/-- A configuration without the release type of breaking commits. -/
def withoutMajor : Config := ⟨["minor", "patch"], [Rule.ofType "patch" "docs"]⟩

/-- The breaking commit fails for the missing release type, and the one behind it is not
analysed. -/
theorem error_of_ofConfig_withoutMajor :
    ∃ analyzer, ofConfig withoutMajor = .ok analyzer ∧
      (analyzer.analyze [Ranking.breakingFeature, Ranking.breakingFeature]).outcome =
        .error (.configuration (.unknownReleaseType "major")) ∧
      "major" ∉ withoutMajor.releaseTypes ∧
      ∃ rule ∈ Rule.defaults, rule.release = some "major" := by
  let analyzer : Analyzer :=
    ⟨⟨["minor", "patch"], by decide, by decide, by decide⟩, [Rule.ofType "patch" "docs"]⟩
  have valid : ofConfig withoutMajor = .ok analyzer := rfl
  have failed : (analyzer.analyze [Ranking.breakingFeature, Ranking.breakingFeature]).outcome =
      .error (.configuration (.unknownReleaseType "major")) := rfl
  obtain ⟨id, same, _, _, missing, _, _, _, _, rule, builtin, _, carried⟩ :=
    (error_of_ofConfig valid [Ranking.breakingFeature, Ranking.breakingFeature]).1 _ failed
  cases same
  exact ⟨analyzer, valid, failed, missing, rule, builtin, carried⟩

end Analyzer
end ReleaseAnalysis
