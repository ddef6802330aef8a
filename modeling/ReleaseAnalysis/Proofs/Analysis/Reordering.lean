import ReleaseAnalysis.Proofs.Analysis.Fallback

/-!
# The order of rules and commits does not matter

A configuration whose rules are put in another order is valid for the same ranking
(`Config.validate_of_perm`). Two resolutions of the same rules in different orders may stop at
different rules and count different numbers of matches, but they have the same findings, so they
yield the same release if both succeed (`Ranking.release_of_perm`). With rules that fit they do
succeed, and they agree on whether any rule matched, so a commit alone has the same result in both
orders, its error included (`Reorders.finding_eq`).

The commits of an analysis are findings in their turn. In another order the analysis may stop at
another commit or meet an error that it did not come to before, but two analyses that succeed
conclude from the same findings (`Reorders.release_eq`).
-/

set_option autoImplicit false

namespace ReleaseAnalysis

/-- The order of the rules does not matter for the validity of a configuration. -/
theorem Config.validate_of_perm {types : List String} {rules reordered : List Rule}
    {ranking : Ranking} (perm : rules.Perm reordered) :
    Config.validate ⟨types, rules⟩ = .ok ranking ↔
      Config.validate ⟨types, reordered⟩ = .ok ranking := by
  simp only [Config.validate_eq_ok_iff, perm.mem_iff]

/-- Two resolutions of the same rules in different orders yield the same release. -/
theorem Ranking.release_of_perm {ranking : Ranking} {commit : Commit}
    {rules reordered : List Rule} {left right : Resolution} (perm : rules.Perm reordered)
    (done : (ranking.resolve rules commit).outcome = .ok left)
    (done' : (ranking.resolve reordered commit).outcome = .ok right) :
    left.release = right.release :=
  eq_of_conclude_of_mem_iff (fun _ => (perm.map _).mem_iff)
    (fun _ => recognizes_of_mem_findings) (conclude_of_resolve done) (conclude_of_resolve done')

namespace Analyzer

variable {analyzer other : Analyzer} {commits others : List Commit} {left right : Option String}

/-- Two analyzers have the same ranking, and the same rules in perhaps another order. -/
structure Reorders (other analyzer : Analyzer) : Prop where
  ranking_eq : other.ranking = analyzer.ranking
  perm : other.rules.Perm analyzer.rules

/-- Configurations that differ in the order of their rules have such analyzers. -/
theorem reorders_of_ofConfig {types : List String} {rules reordered : List Rule}
    (perm : rules.Perm reordered) (valid : ofConfig ⟨types, rules⟩ = .ok analyzer)
    (valid' : ofConfig ⟨types, reordered⟩ = .ok other) : other.Reorders analyzer := by
  obtain ⟨validated, kept⟩ := ofConfig_eq_ok_iff.mp valid
  obtain ⟨validated', kept'⟩ := ofConfig_eq_ok_iff.mp valid'
  refine ⟨?_, ?_⟩
  · exact Except.ok.inj (validated'.symm.trans ((Config.validate_of_perm perm).mp validated))
  · rw [kept, kept']
    exact perm.symm

/-- A configuration has an analyzer exactly when it has one with its rules in another order. -/
theorem exists_ofConfig_of_perm {types : List String} {rules reordered : List Rule}
    (perm : rules.Perm reordered) (valid : ofConfig ⟨types, rules⟩ = .ok analyzer) :
    ∃ other, ofConfig ⟨types, reordered⟩ = .ok other := by
  have validated := (ofConfig_eq_ok_iff.mp valid).1
  exact ⟨⟨analyzer.ranking, reordered⟩,
    ofConfig_eq_ok_iff.mpr ⟨(Config.validate_of_perm perm).mp validated, rfl⟩⟩

namespace Reorders

theorem exists_hit_iff (reorders : other.Reorders analyzer) (commit : Commit) :
    (∃ rule ∈ other.rules, rule.matches commit = .ok true) ↔
      ∃ rule ∈ analyzer.rules, rule.matches commit = .ok true := by
  simp only [reorders.perm.mem_iff]

theorem fits (reorders : other.Reorders analyzer)
    (fits : ∀ rule ∈ analyzer.rules, analyzer.ranking.Fits rule) :
    ∀ rule ∈ other.rules, other.ranking.Fits rule := by
  intro rule member
  rw [reorders.ranking_eq]
  exact fits rule (reorders.perm.mem_iff.mp member)

/-- A commit alone has the same result for every order of the rules. -/
theorem finding_eq (reorders : other.Reorders analyzer)
    (fits : ∀ rule ∈ analyzer.rules, analyzer.ranking.Fits rule) (commit : Commit) :
    other.finding commit = analyzer.finding commit := by
  have fits' := reorders.fits fits
  unfold finding
  -- Whether any rule matches does not depend on the order, so both ask the same list of rules.
  by_cases hit : ∃ rule ∈ analyzer.rules, rule.matches commit = .ok true
  · obtain ⟨resolution, done, yielded⟩ := exists_resolution_of_hit fits hit
    obtain ⟨resolution', done', yielded'⟩ :=
      exists_resolution_of_hit fits' ((reorders.exists_hit_iff commit).mpr hit)
    rw [reorders.ranking_eq] at done'
    rw [yielded, yielded', Ranking.release_of_perm reorders.perm done' done]
  · have unmatched := mt (reorders.exists_hit_iff commit).mp hit
    rw [analyzeCommit_of_not_hit fits hit, analyzeCommit_of_not_hit fits' unmatched,
      reorders.ranking_eq]

/-- Two analyses of the same commits in different orders yield the same release. -/
theorem release_eq (reorders : other.Reorders analyzer)
    (fits : ∀ rule ∈ analyzer.rules, analyzer.ranking.Fits rule) (perm : commits.Perm others)
    (done : (analyzer.analyze commits).outcome = .ok left)
    (done' : (other.analyze others).outcome = .ok right) : left = right := by
  rw [outcome_analyze] at done done'
  rw [funext (reorders.finding_eq fits), reorders.ranking_eq] at done'
  exact Ranking.eq_of_conclude_of_mem_iff (fun _ => (perm.map _).mem_iff)
    (fun _ => recognizes_of_mem_findings) done done'

end Reorders

/-- **The order of the rules and of the commits does not matter for an analysis.** A configuration
is accepted for every order of its rules or for none, and the analyses of the same commits in
different orders yield the same release if both succeed. They do succeed if the release types of the
built-in rules are among those of the configuration. -/
theorem analyze_eq_of_perm {types : List String} {rules reordered : List Rule}
    (perm : rules.Perm reordered) (perm' : commits.Perm others) :
    ((∃ analyzer, ofConfig ⟨types, rules⟩ = .ok analyzer) ↔
        ∃ other, ofConfig ⟨types, reordered⟩ = .ok other) ∧
      ∀ analyzer other, ofConfig ⟨types, rules⟩ = .ok analyzer →
        ofConfig ⟨types, reordered⟩ = .ok other →
        (∀ left right, (analyzer.analyze commits).outcome = .ok left →
          (other.analyze others).outcome = .ok right → left = right) ∧
        ((∀ id ∈ ["major", "minor", "patch"], id ∈ types) →
          ∃ release, (analyzer.analyze commits).outcome = .ok release ∧
            (other.analyze others).outcome = .ok release) := by
  refine ⟨⟨?_, ?_⟩, ?_⟩
  · rintro ⟨analyzer, valid⟩
    exact exists_ofConfig_of_perm perm valid
  · rintro ⟨other, valid⟩
    exact exists_ofConfig_of_perm perm.symm valid
  · intro analyzer other valid valid'
    have fits := fits_of_ofConfig valid
    have reorders := reorders_of_ofConfig perm valid valid'
    refine ⟨fun left right => reorders.release_eq fits perm', ?_⟩
    intro complete
    have listed : ∀ id ∈ ["major", "minor", "patch"], id ∈ analyzer.ranking.ids := by
      rwa [ids_of_ofConfig valid]
    have listed' : ∀ id ∈ ["major", "minor", "patch"], id ∈ other.ranking.ids := by
      rwa [reorders.ranking_eq]
    obtain ⟨left, done⟩ := exists_outcome_of_complete fits listed commits
    obtain ⟨right, done'⟩ := exists_outcome_of_complete (reorders.fits fits) listed' others
    exact ⟨left, done, reorders.release_eq fits perm' done done' ▸ done'⟩

/-- Rules for features and for breaking commits. -/
def featureRules : List Rule :=
  [Rule.ofType "minor" "feat", (Rule.ofRelease (some "major")).requireBreaking]

/-- In one order the analysis goes through both commits, in the other it stops at the first. -/
theorem analyze_eq_of_perm_featureRules :
    featureRules.Perm featureRules.reverse ∧
      [Ranking.plainFeature, Ranking.breakingFeature].Perm
        [Ranking.breakingFeature, Ranking.plainFeature] ∧
      ∃ analyzer other, ofConfig ⟨Ranking.defaultIds, featureRules⟩ = .ok analyzer ∧
        ofConfig ⟨Ranking.defaultIds, featureRules.reverse⟩ = .ok other ∧
        (analyzer.analyze [Ranking.plainFeature, Ranking.breakingFeature]).outcome =
          .ok (some "major") ∧
        (other.analyze [Ranking.breakingFeature, Ranking.plainFeature]).outcome =
          .ok (some "major") := by
  have perm : featureRules.Perm featureRules.reverse := (List.reverse_perm _).symm
  have perm' : [Ranking.plainFeature, Ranking.breakingFeature].Perm
      [Ranking.breakingFeature, Ranking.plainFeature] := List.Perm.swap _ _ _
  let analyzer : Analyzer := ⟨Ranking.default, featureRules⟩
  let other : Analyzer := ⟨Ranking.default, featureRules.reverse⟩
  have valid : ofConfig ⟨Ranking.defaultIds, featureRules⟩ = .ok analyzer := rfl
  have valid' : ofConfig ⟨Ranking.defaultIds, featureRules.reverse⟩ = .ok other := rfl
  have complete : ∀ id ∈ ["major", "minor", "patch"], id ∈ Ranking.defaultIds := by decide
  have done : (analyzer.analyze [Ranking.plainFeature, Ranking.breakingFeature]).outcome =
      .ok (some "major") := rfl
  obtain ⟨release, found, found'⟩ :=
    ((analyze_eq_of_perm perm perm').2 analyzer other valid valid').2 complete
  rw [done, Except.ok.injEq] at found
  exact ⟨perm, perm', analyzer, other, valid, valid', done, found ▸ found'⟩

end Analyzer
end ReleaseAnalysis
