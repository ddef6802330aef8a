import ReleaseAnalysis.Proofs.Analysis.Fallback
import ReleaseAnalysis.Proofs.Pattern.Preorder
import ReleaseAnalysis.Proofs.Ranking.Order
import ReleaseAnalysis.Proofs.Rule.Testing

/-!
# What the built-in rules come to

The built-in rules say which release types a commit triggers by its notes, its type and its revert
flag (`Commit.Triggers`, `exists_builtin_iff`). A commit that no custom rule matches triggers the
most severe of them, and a list of such commits the most severe of what any of them triggers. As a
ranking lists its release types from the most severe down, that is the first one of the list that is
triggered (`Ranking.MostSevere.eq_find?`), wherever the ranking has the three built-in release types
and in whatever order the rules are written.
-/

set_option autoImplicit false

namespace ReleaseAnalysis

/-! ## Rules without regular expressions -/

/-- Only numbers are rounded. -/
theorem Scalar.SameRounded.eq_of_not_number {value found : Scalar}
    (same : value.SameRounded found) (noNumber : ∀ number, value ≠ .number number) :
    found = value := by
  cases value with
  | number number => exact absurd rfl (noNumber number)
  | null | bool _ | string _ =>
    cases found <;> cases same
    rfl

/-- A value that is neither a number nor a regular expression is met by itself only. -/
theorem Commit.meets_scalar_iff {commit : Commit} {name : String} {value : Scalar}
    (free : value.SlashFree) (noNumber : ∀ number, value ≠ .number number) :
    commit.Meets (name, .scalar value) ↔ commit.get? name = some (.scalar value) := by
  constructor
  · rintro ⟨found, has, admitted⟩
    obtain ⟨same⟩ := (Json.scalar_admits_iff free).mp admitted
    rwa [same.eq_of_not_number noNumber] at has
  · intro has
    exact ⟨_, has, (Json.scalar_admits_iff free).mpr (.scalar rfl)⟩

namespace Rule

variable {rule : Rule} {commit : Commit}

/-- A rule that compiles matches the commits that it admits and that meet its fields. -/
theorem matches_iff_meets (compiles : ∃ patterns, rule.patterns = .ok patterns) :
    rule.matches commit = .ok true ↔
      rule.Admits commit ∧ ∀ field ∈ rule.fields, commit.Meets field := by
  obtain ⟨patterns, compiled⟩ := compiles
  rw [matches_eq_true_iff, Admits, Commit.hasNotes_iff, ← satisfies_iff_meets compiled]
  simp only [compiled, Except.ok.injEq, exists_eq_left']

/-- A rule that only asks for a breaking commit. -/
theorem matches_requireBreaking_iff {release : Option String} :
    (ofRelease release).requireBreaking.matches commit = .ok true ↔
      ∃ note rest, commit.get? "notes" = some (.array (note :: rest)) := by
  rw [matches_iff_meets ⟨[], rfl⟩]
  simp [Admits, requireBreaking, ofRelease]

/-- A rule that only asks for a field with a value that is compared. -/
theorem matches_withField_iff {release : Option String} {name : String} {value : Scalar}
    (free : value.SlashFree) (noNumber : ∀ number, value ≠ .number number) :
    ((ofRelease release).withField name (.scalar value)).matches commit = .ok true ↔
      commit.get? name = some (.scalar value) := by
  have compiled : ((ofRelease release).withField name (.scalar value)).patterns =
      .ok [(name, .literal value)] := by
    simp [patterns, withField, ofRelease, Members.insert, Pattern.compile,
      Pattern.compileScalar_of_slashFree free, Except.map, pure, Except.pure, bind, Except.bind]
  rw [matches_iff_meets ⟨_, compiled⟩, ← Commit.meets_scalar_iff free noNumber]
  simp [Admits, withField, ofRelease, Members.insert]

theorem matches_ofType_iff {release type : String} (free : Scalar.SlashFree (.string type)) :
    (ofType release type).matches commit = .ok true ↔
      commit.get? "type" = some (.ofString type) :=
  matches_withField_iff free nofun

end Rule

/-! ## What a commit triggers -/

/-- A commit triggers a release type without custom rules. -/
inductive Commit.Triggers (commit : Commit) : String → Prop
  | notes {note : Json} {rest : List Json}
    (noted : commit.get? "notes" = some (.array (note :: rest))) : commit.Triggers "major"
  | feature (typed : commit.get? "type" = some (.ofString "feat")) : commit.Triggers "minor"
  | revert (reverts : commit.get? "revert" = some (.scalar (.bool true))) :
    commit.Triggers "patch"
  | fix (typed : commit.get? "type" = some (.ofString "fix")) : commit.Triggers "patch"
  | performance (typed : commit.get? "type" = some (.ofString "perf")) : commit.Triggers "patch"

/-- **The built-in rules that match a commit carry the release types that it triggers.** -/
theorem exists_builtin_iff {commit : Commit} {id : String} :
    (∃ rule ∈ Rule.defaults, rule.matches commit = .ok true ∧ rule.release = some id) ↔
      commit.Triggers id := by
  have noted : ((Rule.ofRelease (some "major")).requireBreaking).matches commit = .ok true ↔
      ∃ note rest, commit.get? "notes" = some (.array (note :: rest)) :=
    Rule.matches_requireBreaking_iff
  have reverts : ((Rule.ofRelease (some "patch")).withField "revert"
      (.scalar (.bool true))).matches commit = .ok true ↔
      commit.get? "revert" = some (.scalar (.bool true)) :=
    Rule.matches_withField_iff trivial nofun
  have typed : ∀ release type, Scalar.SlashFree (.string type) →
      ((Rule.ofType release type).matches commit = .ok true ↔
        commit.get? "type" = some (.ofString type)) := fun _ _ => Rule.matches_ofType_iff
  have feat := typed "minor" "feat" (by decide)
  have fix := typed "patch" "fix" (by decide)
  have perf := typed "patch" "perf" (by decide)
  constructor
  · rintro ⟨rule, builtin, hit, carried⟩
    simp only [Rule.defaults, List.mem_cons, List.not_mem_nil, or_false] at builtin
    rcases builtin with rfl | rfl | rfl | rfl | rfl <;> cases carried
    · obtain ⟨note, rest, has⟩ := noted.mp hit
      exact .notes has
    · exact .revert (reverts.mp hit)
    · exact .feature (feat.mp hit)
    · exact .fix (fix.mp hit)
    · exact .performance (perf.mp hit)
  · intro triggers
    cases triggers with
    | notes has => exact ⟨_, by simp [Rule.defaults], noted.mpr ⟨_, _, has⟩, rfl⟩
    | feature has => exact ⟨_, by simp [Rule.defaults], feat.mpr has, rfl⟩
    | revert has => exact ⟨_, by simp [Rule.defaults], reverts.mpr has, rfl⟩
    | fix has => exact ⟨_, by simp [Rule.defaults], fix.mpr has, rfl⟩
    | performance has => exact ⟨_, by simp [Rule.defaults], perf.mpr has, rfl⟩

instance (commit : Commit) (id : String) : Decidable (commit.Triggers id) :=
  decidable_of_iff (∃ rule ∈ Rule.defaults, rule.hits commit = true ∧ rule.release = some id) <| by
    simp only [Rule.hits_iff, exists_builtin_iff]

/-- Only the three built-in release types are triggered. -/
theorem Commit.Triggers.mem {commit : Commit} {id : String} (triggers : commit.Triggers id) :
    id ∈ ["major", "minor", "patch"] := by
  cases triggers <;> decide

/-! ## Resolutions and analyses -/

namespace Ranking

variable {ranking : Ranking} {commit : Commit} {rules : List Rule} {resolution : Resolution}

/-- Rules that fit resolve to the most severe release type that a matching one carries. -/
theorem mostSevere_of_resolve (fits : ∀ rule ∈ rules, ranking.Fits rule)
    (done : (ranking.resolve rules commit).outcome = .ok resolution) :
    ranking.MostSevere
      (fun id => ∃ rule ∈ rules, rule.matches commit = .ok true ∧ rule.release = some id)
      resolution.release where
  ofKind _ yielded := exists_rule_of_resolve done yielded
  bound := by
    rintro id ⟨rule, listed, hit, carried⟩
    rw [← carried]
    exact severity_le_of_resolve done listed hit (fits rule listed).recognizes

/-- A ranking of the three built-in release types fits the built-in rules. -/
theorem fits_builtin (complete : ∀ id ∈ ["major", "minor", "patch"], id ∈ ranking.ids) :
    ∀ rule ∈ Rule.defaults, ranking.Fits rule := by
  intro rule builtin
  refine ⟨fun id carried => ?_, Rule.patterns_of_mem_defaults builtin⟩
  exact complete id (Rule.release_of_mem_defaults builtin carried)

end Ranking

namespace Analyzer

variable {analyzer : Analyzer} {config : Config} {commit : Commit} {commits : List Commit}

/-- No custom rule matches a commit. -/
def Unmatched (analyzer : Analyzer) (commit : Commit) : Prop :=
  ¬ ∃ rule ∈ analyzer.rules, rule.matches commit = .ok true

/-- A commit that no custom rule matches yields the most severe release type that it triggers. -/
theorem exists_mostSevere_of_unmatched
    (fits : ∀ rule ∈ analyzer.rules, analyzer.ranking.Fits rule)
    (complete : ∀ id ∈ ["major", "minor", "patch"], id ∈ analyzer.ranking.ids)
    (unmatched : analyzer.Unmatched commit) :
    ∃ release, (analyzer.analyzeCommit commit).outcome = .ok release ∧
      analyzer.ranking.MostSevere commit.Triggers release := by
  have builtin := Ranking.fits_builtin complete
  obtain ⟨resolution, done⟩ := Ranking.exists_outcome_of_fits builtin commit
  refine ⟨resolution.release, ?_, ?_⟩
  · rw [analyzeCommit_of_not_hit fits unmatched, Recorded.map, done]
    rfl
  · have most := Ranking.mostSevere_of_resolve builtin done
    simpa only [exists_builtin_iff] using most

/-- Commits that no custom rule matches yield the most severe release type that any of them
triggers. -/
theorem exists_mostSevere_of_forall_unmatched
    (fits : ∀ rule ∈ analyzer.rules, analyzer.ranking.Fits rule)
    (complete : ∀ id ∈ ["major", "minor", "patch"], id ∈ analyzer.ranking.ids)
    (unmatched : ∀ commit ∈ commits, analyzer.Unmatched commit) :
    ∃ release, (analyzer.analyze commits).outcome = .ok release ∧
      analyzer.ranking.MostSevere (fun id => ∃ commit ∈ commits, commit.Triggers id) release := by
  obtain ⟨release, done⟩ := exists_outcome_of_complete fits complete commits
  refine ⟨release, done, ?_, ?_⟩
  · rintro id rfl
    obtain ⟨commit, listed, yielded⟩ := exists_commit_of_analyze done
    obtain ⟨_, found, most⟩ :=
      exists_mostSevere_of_unmatched fits complete (unmatched commit listed)
    cases yielded.symm.trans found
    exact ⟨commit, listed, most.ofKind id rfl⟩
  · rintro id ⟨commit, listed, triggers⟩
    obtain ⟨alone, found, most⟩ :=
      exists_mostSevere_of_unmatched fits complete (unmatched commit listed)
    exact Nat.le_trans (most.bound id triggers) (severity_le_of_analyze done listed found)

/-- Among the built-in release types those that commits trigger are searched for in the order of the
three. -/
theorem find?_defaultIds (commits : List Commit) :
    (Ranking.defaultIds.find? fun id => ∃ commit ∈ commits, commit.Triggers id) =
      ["major", "minor", "patch"].find? fun id => ∃ commit ∈ commits, commit.Triggers id := by
  have kept : ["major", "minor", "patch"] =
      Ranking.defaultIds.filter (· ∈ ["major", "minor", "patch"]) := by decide
  rw [kept, List.find?_filter]
  congr 1
  funext id
  refine Bool.eq_iff_iff.mpr ?_
  simp only [decide_eq_true_eq]
  exact ⟨fun ⟨commit, listed, triggers⟩ => ⟨triggers.mem, commit, listed, triggers⟩, And.right⟩

/-- **Without a matching custom rule a commit yields the highest release type that its notes, its
type and its revert flag trigger**, in whatever order a configuration lists the three built-in
release types. With the built-in release types and no custom rules, commits yield a major release if
one of them has notes, else a minor one if one is a feature, else a patch if one is a revert, a fix
or a performance improvement, and else none. -/
theorem builtin_release (valid : ofConfig config = .ok analyzer)
    (complete : ∀ id ∈ ["major", "minor", "patch"], id ∈ config.releaseTypes) :
    (∀ commit, (¬ ∃ rule ∈ config.rules, rule.matches commit = .ok true) →
        (analyzer.analyzeCommit commit).outcome =
          .ok (config.releaseTypes.find? (commit.Triggers ·))) ∧
      (config.releaseTypes = Ranking.defaultIds → config.rules = [] → ∀ commits,
        (analyzer.analyze commits).outcome =
          .ok (["major", "minor", "patch"].find? fun id =>
            ∃ commit ∈ commits, commit.Triggers id)) := by
  have fits := fits_of_ofConfig valid
  rw [← ids_of_ofConfig valid] at complete ⊢
  rw [← (ofConfig_eq_ok_iff.mp valid).2]
  constructor
  · intro commit unmatched
    obtain ⟨release, done, most⟩ := exists_mostSevere_of_unmatched fits complete unmatched
    rw [done, most.eq_find? fun id triggers => complete id triggers.mem]
  · intro builtin noRules commits
    have unmatched : ∀ commit ∈ commits, analyzer.Unmatched commit := by
      rintro commit _ ⟨rule, listed, _⟩
      rw [noRules] at listed
      cases listed
    obtain ⟨release, done, most⟩ := exists_mostSevere_of_forall_unmatched fits complete unmatched
    rw [done, most.eq_find? fun id ⟨_, _, triggers⟩ => complete id triggers.mem, builtin,
      find?_defaultIds]

/-- A configuration in which a patch is the highest release type, and documentation triggers a major
release. -/
def patchFirst : Config := ⟨["patch", "minor", "major"], [Rule.ofType "major" "docs"]⟩

/-- The fix with a note triggers a major release and a patch. The patch is the higher one here, while
the built-in release types put the major release first. -/
theorem builtin_release_patchFirst :
    (∃ analyzer, ofConfig patchFirst = .ok analyzer ∧
      (¬ ∃ rule ∈ patchFirst.rules, rule.matches breakingFix = .ok true) ∧
      (analyzer.analyzeCommit breakingFix).outcome = .ok (some "patch")) ∧
    ∃ analyzer, ofConfig Config.default = .ok analyzer ∧
      (analyzer.analyze [Ranking.plainFeature, breakingFix]).outcome = .ok (some "major") := by
  constructor
  · let analyzer : Analyzer :=
      ⟨⟨["patch", "minor", "major"], by decide, by decide, by decide⟩, [Rule.ofType "major" "docs"]⟩
    have valid : ofConfig patchFirst = .ok analyzer := rfl
    have unmatched : ¬ ∃ rule ∈ patchFirst.rules, rule.matches breakingFix = .ok true := by
      simp [patchFirst, show (Rule.ofType "major" "docs").matches breakingFix = .ok false from rfl]
    have yielded := (builtin_release valid (by decide)).1 breakingFix unmatched
    have first : patchFirst.releaseTypes.find? (breakingFix.Triggers ·) = some "patch" := by decide
    exact ⟨analyzer, valid, unmatched, first ▸ yielded⟩
  · let analyzer : Analyzer := ⟨Ranking.default, []⟩
    have valid : ofConfig Config.default = .ok analyzer := rfl
    have yielded :=
      (builtin_release valid (by decide)).2 rfl rfl [Ranking.plainFeature, breakingFix]
    have first : (["major", "minor", "patch"].find? fun id =>
        ∃ commit ∈ [Ranking.plainFeature, breakingFix], commit.Triggers id) = some "major" := by
      decide
    exact ⟨analyzer, valid, first ▸ yielded⟩

end Analyzer
end ReleaseAnalysis
