import ReleaseAnalysis.Proofs.Resolution.Step

/-!
# A resolution yields the highest release of all matching rules

A resolution stops at the first matching rule that carries the highest release type, so it looks
at a prefix of the rules only (`visited`). What it yields is nevertheless the highest release of
the whole list, and the number of matches that it reports is counted over the prefix. That number
is zero exactly when no rule of the whole list matches (`matched_eq_zero_iff`), which decides
whether the built-in rules are asked.
-/

set_option autoImplicit false

namespace ReleaseAnalysis
namespace Ranking

variable {ranking : Ranking} {commit : Commit} {rule : Rule} {rules rest : List Rule}
  {resolution : Resolution} {best : Option String} {matched : Nat}

/-! ## The rules that are visited -/

/-- Whether a rule matches a commit and carries the highest release type. -/
def reaches (ranking : Ranking) (commit : Commit) (rule : Rule) : Bool :=
  rule.hits commit && rule.release = some ranking.highest

theorem reaches_iff :
    ranking.reaches commit rule = true ↔
      rule.matches commit = .ok true ∧ rule.release = some ranking.highest := by
  simp [reaches, Rule.hits_iff]

/-- A rule reaches the highest release type when it finds it. -/
theorem finding_eq_highest_iff :
    ranking.finding commit rule = .ok (some ranking.highest) ↔
      ranking.reaches commit rule = true := by
  rw [reaches_iff, finding_eq_ok_iff]
  constructor
  · rintro (⟨_, absent⟩ | ⟨hit, carried, _⟩)
    · cases absent
    · exact ⟨hit, carried⟩
  · rintro ⟨hit, carried⟩
    exact .inr ⟨hit, carried, recognizes_some.mpr ranking.highest_mem⟩

theorem reaches_eq_false_iff :
    ranking.reaches commit rule = false ↔
      ranking.finding commit rule ≠ .ok (some ranking.highest) := by
  rw [← Bool.not_eq_true, ← finding_eq_highest_iff]

/-- The rules up to the first that reaches the highest release type, and all where none does. -/
def visited (ranking : Ranking) (commit : Commit) (rules : List Rule) : List Rule :=
  rules.take (rules.findIdx (ranking.reaches commit) + 1)

theorem visited_cons_of_reaches (reached : ranking.reaches commit rule = true) :
    ranking.visited commit (rule :: rest) = [rule] := by
  simp [visited, List.findIdx_cons, reached]

theorem visited_cons_of_not_reaches (unreached : ranking.reaches commit rule = false) :
    ranking.visited commit (rule :: rest) = rule :: ranking.visited commit rest := by
  simp [visited, List.findIdx_cons, unreached]

/-- A rule of the list matches exactly when a visited one does. -/
theorem exists_hit_visited_iff (ranking : Ranking) (commit : Commit) (rules : List Rule) :
    (∃ rule ∈ ranking.visited commit rules, rule.hits commit = true) ↔
      ∃ rule ∈ rules, rule.hits commit = true := by
  induction rules with
  | nil => simp [visited]
  | cons rule rest ih =>
    cases reached : ranking.reaches commit rule with
    | true =>
      have hit := Rule.hits_iff.mpr (reaches_iff.mp reached).1
      simp [visited_cons_of_reaches reached, hit]
    | false => simp [visited_cons_of_not_reaches reached, ih]

/-! ## The number of matches -/

/-- A resolution counts the matching rules among those it visits. -/
theorem matched_resolveFrom (pending : ranking.Pending best)
    (done : (ranking.resolveFrom commit best matched rules).outcome = .ok resolution) :
    resolution.matched =
      matched + (ranking.visited commit rules).countP fun rule => rule.hits commit := by
  induction rules generalizing best matched with
  | nil =>
    cases done
    simp [visited]
  | cons rule rest ih =>
    cases found : ranking.finding commit rule with
    | error cause =>
      rw [resolveFrom_of_error pending.recognizes found] at done
      cases done
    | ok release =>
      by_cases highest : release = some ranking.highest
      · subst highest
        have reached := finding_eq_highest_iff.mp found
        have hit := Rule.hits_iff.mpr (reaches_iff.mp reached).1
        rw [resolveFrom_of_highest pending found] at done
        cases done
        simp [visited_cons_of_reaches reached, hit]
      · have unreached : ranking.reaches commit rule = false :=
          reaches_eq_false_iff.mpr (by simp [found, highest])
        have next := pending.higher ⟨recognizes_of_finding found, highest⟩
        rw [resolveFrom_of_other pending.recognizes found highest, Recorded.outcome_after] at done
        rw [ih next done, visited_cons_of_not_reaches unreached, List.countP_cons]
        omega

theorem matched_resolve (done : (ranking.resolve rules commit).outcome = .ok resolution) :
    resolution.matched = (ranking.visited commit rules).countP fun rule => rule.hits commit := by
  rw [matched_resolveFrom pending_none done, Nat.zero_add]

/-! ## The release -/

theorem conclude_of_resolve (done : (ranking.resolve rules commit).outcome = .ok resolution) :
    ranking.conclude none (rules.map (ranking.finding commit)) = .ok resolution.release := by
  rw [← outcome_resolve, done]
  rfl

/-- The release of a resolution is recognized. -/
theorem recognizes_of_resolve (done : (ranking.resolve rules commit).outcome = .ok resolution) :
    ranking.Recognizes resolution.release :=
  recognizes_of_conclude (fun _ => recognizes_of_mem_findings) (conclude_of_resolve done)

/-- A resolution that does not reach the highest release type met no rule at fault. -/
theorem finding_of_resolve (done : (ranking.resolve rules commit).outcome = .ok resolution)
    (other : resolution.release ≠ some ranking.highest) (member : rule ∈ rules) :
    ∃ release, ranking.finding commit rule = .ok release := by
  have undecided := not_decides_of_conclude_eq_ok (conclude_of_resolve done) other _
    (List.mem_map_of_mem member)
  obtain ⟨release, found, _⟩ := decides_eq_false_iff.mp undecided
  exact ⟨release, found⟩

/-- A matching rule with a recognized release is no more severe than the resolution. -/
theorem severity_le_of_resolve (done : (ranking.resolve rules commit).outcome = .ok resolution)
    (member : rule ∈ rules) (hit : rule.matches commit = .ok true)
    (recognizes : ranking.Recognizes rule.release) :
    ranking.severity rule.release ≤ ranking.severity resolution.release := by
  have found : ranking.finding commit rule = .ok rule.release :=
    finding_eq_ok_iff.mpr (.inr ⟨hit, rfl, recognizes⟩)
  exact severity_le_of_conclude_eq_ok (conclude_of_resolve done)
    (List.mem_map.mpr ⟨rule, member, found⟩)

/-- The release of a resolution is carried by a matching rule. -/
theorem exists_rule_of_resolve {release : String}
    (done : (ranking.resolve rules commit).outcome = .ok resolution)
    (yielded : resolution.release = some release) :
    ∃ rule ∈ rules, rule.matches commit = .ok true ∧ rule.release = some release := by
  rcases mem_of_conclude_eq_ok (conclude_of_resolve done) with none | found
  · rw [yielded] at none
    cases none
  · obtain ⟨rule, member, found⟩ := List.mem_map.mp found
    rw [yielded] at found
    rcases finding_eq_ok_iff.mp found with ⟨_, absent⟩ | ⟨hit, carried, _⟩
    · cases absent
    · exact ⟨rule, member, hit, carried⟩

/-- A resolution yields no release exactly when no matching rule carries one. -/
theorem release_eq_none_iff (done : (ranking.resolve rules commit).outcome = .ok resolution) :
    resolution.release = none ↔
      ∀ rule ∈ rules, rule.matches commit = .ok true → rule.release = none := by
  constructor
  · intro absent rule member hit
    have other : resolution.release ≠ some ranking.highest := by simp [absent]
    obtain ⟨release, found⟩ := finding_of_resolve done other member
    rcases finding_eq_ok_iff.mp found with ⟨missed, _⟩ | ⟨_, carried, recognizes⟩
    · rw [hit] at missed
      cases missed
    · rw [← carried] at recognizes
      have bound := severity_le_of_resolve done member hit recognizes
      rw [absent, severity_none] at bound
      exact (severity_eq_zero_iff recognizes).mp (Nat.le_zero.mp bound)
  · intro absent
    cases yielded : resolution.release with
    | none => rfl
    | some release =>
      obtain ⟨rule, member, hit, carried⟩ := exists_rule_of_resolve done yielded
      rw [absent rule member hit] at carried
      cases carried

/-- A resolution counts no match exactly when no rule of the whole list matches. -/
theorem matched_eq_zero_iff (done : (ranking.resolve rules commit).outcome = .ok resolution) :
    resolution.matched = 0 ↔ ∀ rule ∈ rules, rule.matches commit = .ok false := by
  have unvisited : (∀ rule ∈ ranking.visited commit rules, ¬ rule.hits commit = true) ↔
      ∀ rule ∈ rules, ¬ rule.hits commit = true := by
    simpa using not_congr (ranking.exists_hit_visited_iff commit rules)
  rw [matched_resolve done, List.countP_eq_zero, unvisited]
  constructor
  · intro unmatched rule member
    have other : resolution.release ≠ some ranking.highest := by
      intro reached
      obtain ⟨first, listed, hit, _⟩ := exists_rule_of_resolve done reached
      exact unmatched first listed (Rule.hits_iff.mpr hit)
    obtain ⟨release, found⟩ := finding_of_resolve done other member
    rcases finding_eq_ok_iff.mp found with ⟨missed, _⟩ | ⟨hit, _⟩
    · exact missed
    · exact absurd (Rule.hits_iff.mpr hit) (unmatched rule member)
  · intro missed rule member hit
    have both := (Rule.hits_iff.mp hit).symm.trans (missed rule member)
    cases both

/-- **A resolution yields the highest release of all matching rules.** It yields no release exactly
when no matching rule of the list carries one. A release that it yields is a recognized one that a
matching rule carries, and no matching rule carries a more severe one, whether it was visited or
not. Matches are counted up to the first that carries the highest release type. -/
theorem resolve_highest (done : (ranking.resolve rules commit).outcome = .ok resolution) :
    (resolution.release = none ↔
        ∀ rule ∈ rules, rule.matches commit = .ok true → rule.release = none) ∧
      (∀ release, resolution.release = some release →
        release ∈ ranking.ids ∧
        (∃ rule ∈ rules, rule.matches commit = .ok true ∧ rule.release = some release) ∧
        ∀ rule ∈ rules, rule.matches commit = .ok true → ∀ other, rule.release = some other →
          other ∈ ranking.ids → ranking.severity (some other) ≤ ranking.severity (some release)) ∧
      resolution.matched =
        (ranking.visited commit rules).countP fun rule => rule.hits commit := by
  refine ⟨release_eq_none_iff done, ?_, matched_resolve done⟩
  intro release yielded
  refine ⟨?_, exists_rule_of_resolve done yielded, ?_⟩
  · have recognizes := recognizes_of_resolve done
    rwa [yielded, recognizes_some] at recognizes
  · intro rule member hit other carried known
    have bound := severity_le_of_resolve done member hit (by rwa [carried, recognizes_some])
    rwa [carried, yielded] at bound

/-- A feature without a note. -/
def plainFeature : Commit := ⟨[("type", .ofString "feat")]⟩

/-- A feature with a note. -/
def breakingFeature : Commit := ⟨[("notes", .array [.scalar .null]), ("type", .ofString "feat")]⟩

/-- A rule for features, one for breaking commits, and behind them a rule that neither compiles nor
carries a recognized release. -/
def shadowingRules : List Rule :=
  [Rule.ofType "minor" "feat", (Rule.ofRelease (some "major")).requireBreaking,
    Rule.ofType "huge" "/(feat/"]

/-- The rule behind the highest release type is not counted, and it could not be more severe. -/
theorem resolve_highest_shadowingRules :
    (default.resolve shadowingRules breakingFeature).outcome = .ok ⟨some "major", 2⟩ ∧
      (default.visited breakingFeature shadowingRules).countP
        (fun rule => rule.hits breakingFeature) = 2 ∧
      ∀ rule ∈ shadowingRules, rule.matches breakingFeature = .ok true →
        ∀ other, rule.release = some other → other ∈ default.ids →
          default.severity (some other) ≤ default.severity (some "major") := by
  have done : (default.resolve shadowingRules breakingFeature).outcome =
      .ok ⟨some "major", 2⟩ := rfl
  have highest := resolve_highest done
  exact ⟨done, highest.2.2.symm, (highest.2.1 "major" rfl).2.2⟩

end Ranking
end ReleaseAnalysis
