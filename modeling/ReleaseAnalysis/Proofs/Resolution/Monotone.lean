import ReleaseAnalysis.Proofs.Pattern.Matching
import ReleaseAnalysis.Proofs.Resolution.Highest

/-!
# More rules and more fields never lower a release

A rule that finds a release type for a commit finds it for every commit with more fields
(`finding_of_extends`). A resolution of more rules, inserted anywhere, for such a commit therefore
has all the release types of the smaller one among its findings, and what it concludes is no less
severe. The two resolutions may stop at different rules, and rules that neither visits may be at
fault: all that matters is that both succeed (`resolve_mono`).
-/

set_option autoImplicit false

namespace ReleaseAnalysis
namespace Ranking

variable {ranking : Ranking} {commit larger : Commit} {rule : Rule} {rules more : List Rule}
  {lesser greater : Resolution}

/-- The release type that a rule finds for a commit it finds for every commit with more fields. -/
theorem finding_of_extends {id : String} (extended : larger.Extends commit)
    (found : ranking.finding commit rule = .ok (some id)) :
    ranking.finding larger rule = .ok (some id) := by
  rcases finding_eq_ok_iff.mp found with ⟨_, absent⟩ | ⟨hit, carried⟩
  · cases absent
  · exact finding_eq_ok_iff.mpr (.inr ⟨extended.matches_eq_true hit, carried⟩)

theorem severity_le_of_extends (inserted : rules.Sublist more) (extended : larger.Extends commit)
    (done : (ranking.resolve rules commit).outcome = .ok lesser)
    (done' : (ranking.resolve more larger).outcome = .ok greater) :
    ranking.severity lesser.release ≤ ranking.severity greater.release := by
  refine severity_le_of_conclude_of_subset ?_ (conclude_of_resolve done)
    (conclude_of_resolve done')
  intro id member
  obtain ⟨rule, listed, found⟩ := List.mem_map.mp member
  exact List.mem_map.mpr ⟨rule, inserted.subset listed, finding_of_extends extended found⟩

/-- **Resolution is monotone in the rules and in the commit.** For a commit with more fields every
rule still matches that matched before, and the release that more rules yield for it is not
outranked by the one that fewer rules yielded. -/
theorem resolve_mono (ranking : Ranking) (inserted : rules.Sublist more)
    (extended : larger.Extends commit) :
    (∀ rule : Rule, rule.matches commit = .ok true → rule.matches larger = .ok true) ∧
      ∀ lesser greater, (ranking.resolve rules commit).outcome = .ok lesser →
        (ranking.resolve more larger).outcome = .ok greater →
        ranking.outranks greater.release lesser.release = .ok false := by
  refine ⟨fun rule => extended.matches_eq_true, ?_⟩
  intro lesser greater done done'
  exact outranks_eq_false_iff.mpr ⟨recognizes_of_resolve done', recognizes_of_resolve done,
    severity_le_of_extends inserted extended done done'⟩

/-- The rule of `shadowingRules` for breaking commits, put in front as well. -/
def guardedRules : List Rule := (Rule.ofRelease (some "major")).requireBreaking :: shadowingRules

/-- With its note the feature is a breaking one, and the rule inserted in front stops the resolution
before it comes to the rule that decided without it. -/
theorem resolve_mono_guardedRules :
    [Rule.ofType "minor" "feat"].Sublist guardedRules ∧ breakingFeature.Extends plainFeature ∧
      (default.resolve [Rule.ofType "minor" "feat"] plainFeature).outcome =
        .ok ⟨some "minor", 1⟩ ∧
      (default.resolve guardedRules breakingFeature).outcome = .ok ⟨some "major", 1⟩ ∧
      default.outranks (some "major") (some "minor") = .ok false := by
  have inserted : [Rule.ofType "minor" "feat"].Sublist guardedRules := by
    simp [guardedRules, shadowingRules]
  have extended : breakingFeature.Extends plainFeature := by
    intro name value found
    by_cases same : name = "type"
    · subst same
      exact found
    · have missed : plainFeature.get? name = none := by
        simp [Commit.get?, Members.get?, plainFeature, List.lookup_cons,
          beq_eq_false_iff_ne.mpr same]
      rw [missed] at found
      cases found
  have done : (default.resolve [Rule.ofType "minor" "feat"] plainFeature).outcome =
      .ok ⟨some "minor", 1⟩ := rfl
  have done' : (default.resolve guardedRules breakingFeature).outcome =
      .ok ⟨some "major", 1⟩ := rfl
  exact ⟨inserted, extended, done, done',
    (resolve_mono default inserted extended).2 _ _ done done'⟩

end Ranking
end ReleaseAnalysis
