import ReleaseAnalysis.Proofs.Config.Reading
import ReleaseAnalysis.Proofs.Pattern.Shape
import ReleaseAnalysis.Proofs.Ranking.Formation
import ReleaseAnalysis.Proofs.Rule.Testing

/-!
# What is wrong with a configuration

The parts of a configuration that are checked are its sites: the list of release types as a whole,
each release type in it, and of each rule the release and the places in its fields. Sites come in
this order, release types and rules by their index, and the fields of a rule by name and then depth
first (`Config.Site.Before`). What can be wrong at a site is said for each kind of site on its own
(`Config.WrongAt`), without looking at the others.

A configuration is valid when nothing is wrong at any site, which is to say that its release types
are distinct, named and at least one, that the releases of its rules are among them, and that all
regular expressions in its rules compile (`Config.Valid`). Otherwise the error is that of the first
site at which something is wrong (`Config.validate_verdict`).

A configuration that is read from a text has its fields in order (`Config.normal_of_ofText`).
-/

set_option autoImplicit false

namespace ReleaseAnalysis

/-! ## Rules -/

namespace Rule

variable {rule : Rule} {types : List String} {ranking : Ranking} {cause : AnalysisError}
  {name : String} {place : Json.Place}

/-- What is checked of a rule: its release, and every place in its fields. -/
inductive Site
  | release
  | field (name : String) (place : Json.Place)

/-- The release is checked before the fields, and these in the order of their names, each depth
first. -/
inductive Site.Before : Site → Site → Prop
  | release (name : String) (place : Json.Place) : Before .release (.field name place)
  | field {name other : String} {place rest : Json.Place}
    (before : Json.Place.Before (.member name :: place) (.member other :: rest)) :
    Before (.field name place) (.field other rest)

theorem exists_site_iff {holds : Site → Prop} :
    (∃ site, holds site) ↔ holds .release ∨ ∃ name place, holds (.field name place) := by
  constructor
  · rintro ⟨_ | ⟨name, place⟩, found⟩
    · exact .inl found
    · exact .inr ⟨name, place, found⟩
  · rintro (found | ⟨name, place, found⟩)
    · exact ⟨_, found⟩
    · exact ⟨_, found⟩

/-- What is wrong with a rule at a site, where the release types are given. -/
inductive WrongAt (types : List String) (rule : Rule) : Site → AnalysisError → Prop
  | release {id : String} (carried : rule.release = some id) (unknown : id ∉ types) :
    WrongAt types rule .release (.configuration (.unknownReleaseType id))
  | field {name : String} {place : Json.Place} {reason : String}
    (faulty : rule.FaultyAt name place reason) :
    WrongAt types rule (.field name place) (.pattern (place.pathFrom name) reason)

/-- Something is wrong first with the release when it is unknown. -/
theorem first_release_iff :
    First Site.Before (rule.WrongAt types) .release cause ↔
      ∃ id, rule.release = some id ∧ id ∉ types ∧
        cause = .configuration (.unknownReleaseType id) := by
  constructor
  · rintro ⟨wrong, _⟩
    cases wrong with
    | release carried unknown => exact ⟨_, carried, unknown, rfl⟩
  · rintro ⟨id, carried, unknown, rfl⟩
    exact ⟨.release carried unknown, nofun⟩

/-- Something is wrong first with a field when the release is known and the fault is the first of
the fields. -/
theorem first_field_iff :
    First Site.Before (rule.WrongAt types) (.field name place) cause ↔
      (∀ id, rule.release = some id → id ∈ types) ∧
        ∃ reason, rule.FirstFaultAt name place reason ∧
          cause = .pattern (place.pathFrom name) reason := by
  constructor
  · rintro ⟨wrong, earliest⟩
    cases wrong with
    | field faulty =>
      refine ⟨fun id carried => ?_, _, ⟨faulty, fun earlier before other wrong => ?_⟩, rfl⟩
      · by_contra unknown
        exact earliest .release (.release name place) _ (.release carried unknown)
      · obtain ⟨name, rest, rfl, wrong⟩ := exists_faultyAt_of_fields wrong
        exact earliest (.field name rest) (.field before) _ (.field wrong)
  · rintro ⟨known, reason, first, rfl⟩
    refine ⟨.field first.faulty, fun earlier before other wrong => ?_⟩
    cases wrong with
    | release carried unknown => exact unknown (known _ carried)
    | field faulty =>
      cases before with
      | field before => exact first.first _ before _ faulty

/-- A rule with a known release is checked by compiling its fields. -/
theorem checkRule_of_recognizes (known : ranking.Recognizes rule.release) :
    Config.checkRule ranking rule = .error cause ↔ rule.patterns = .error cause := by
  rw [Config.checkRule, Ranking.check_eq_ok_iff.mpr known]
  cases rule.patterns <;> simp [Except.mapError, bind, Except.bind, pure, Except.pure]

theorem checkRule_of_not_mem {id : String} (carried : rule.release = some id)
    (unknown : id ∉ ranking.ids) :
    Config.checkRule ranking rule = .error (.configuration (.unknownReleaseType id)) := by
  rw [Config.checkRule, carried, Ranking.check_of_not_mem unknown]
  rfl

/-- **The check of a rule fails at the first site at which something is wrong.** -/
theorem checkRule_eq_error_iff (normal : rule.Normal) :
    Config.checkRule ranking rule = .error cause ↔
      ∃ site, First Site.Before (rule.WrongAt ranking.ids) site cause := by
  simp only [exists_site_iff, first_release_iff, first_field_iff]
  by_cases known : ranking.Recognizes rule.release
  · rw [checkRule_of_recognizes known, patterns_eq_error_iff normal]
    constructor
    · rintro ⟨name, place, reason, first, rfl⟩
      exact .inr ⟨name, place, known, reason, first, rfl⟩
    · rintro (⟨id, carried, unknown, _⟩ | ⟨name, place, _, found⟩)
      · exact absurd (known id carried) unknown
      · exact ⟨name, place, found⟩
  · obtain ⟨id, carried, unknown⟩ : ∃ id, rule.release = some id ∧ id ∉ ranking.ids := by
      simpa [Ranking.Recognizes] using known
    rw [checkRule_of_not_mem carried unknown, Except.error.injEq]
    constructor
    · rintro rfl
      exact .inl ⟨id, carried, unknown, rfl⟩
    · rintro (⟨other, again, _, rfl⟩ | ⟨name, place, recognized, _⟩)
      · cases carried.symm.trans again
        rfl
      · exact absurd (recognized id carried) unknown

/-- A rule fits a ranking when nothing is wrong with it at any site. -/
theorem fits_iff (normal : rule.Normal) :
    ranking.Fits rule ↔ ∀ site cause, ¬ rule.WrongAt ranking.ids site cause := by
  constructor
  · rintro ⟨recognizes, compiles⟩ site cause wrong
    cases wrong with
    | release carried unknown => exact unknown (recognizes _ carried)
    | field faulty => exact faultless_iff.mp ((exists_patterns_iff normal).mp compiles) _ _ _ faulty
  · intro sound
    refine ⟨fun id carried => ?_, ?_⟩
    · by_contra unknown
      exact sound _ _ (.release carried unknown)
    · refine (exists_patterns_iff normal).mpr (faultless_iff.mpr fun name place reason faulty => ?_)
      exact sound _ _ (.field faulty)

end Rule

/-! ## Configurations -/

namespace Config

variable {config : Config} {ranking : Ranking} {cause : AnalysisError} {index : Nat}

/-- What is checked of a configuration: its list of release types, each of them, and the sites of
its rules. -/
inductive Site
  | types
  | type (index : Nat)
  | rule (index : Nat) (site : Rule.Site)

/-- The list is checked before its release types, and these before the rules, each by its index. -/
inductive Site.Before : Site → Site → Prop
  | types_type (index : Nat) : Before .types (.type index)
  | types_rule (index : Nat) (site : Rule.Site) : Before .types (.rule index site)
  | type_type {first second : Nat} (less : first < second) : Before (.type first) (.type second)
  | type_rule (place index : Nat) (site : Rule.Site) : Before (.type place) (.rule index site)
  | rule_rule {first second : Nat} (less : first < second) (site other : Rule.Site) :
    Before (.rule first site) (.rule second other)
  | within {site other : Rule.Site} (index : Nat) (before : site.Before other) :
    Before (.rule index site) (.rule index other)

/-- What is wrong with a configuration at a site. -/
inductive WrongAt (config : Config) : Site → AnalysisError → Prop
  | types (none : config.releaseTypes = []) : WrongAt config .types (.configuration .noReleaseTypes)
  | type {index : Nat} {fault : ConfigurationFault}
    (refused : Ranking.RefusedAt config.releaseTypes index fault) :
    WrongAt config (.type index) (.configuration fault)
  | rule {index : Nat} {rule : Rule} {site : Rule.Site} {cause : AnalysisError}
    (listed : config.rules[index]? = some rule)
    (wrong : rule.WrongAt config.releaseTypes site cause) :
    WrongAt config (.rule index site) cause

theorem exists_site_iff {holds : Site → Prop} :
    (∃ site, holds site) ↔
      (holds .types ∨ ∃ index, holds (.type index)) ∨ ∃ index site, holds (.rule index site) := by
  constructor
  · rintro ⟨_ | index | ⟨index, site⟩, found⟩
    · exact .inl (.inl found)
    · exact .inl (.inr ⟨index, found⟩)
    · exact .inr ⟨index, site, found⟩
  · rintro ((found | ⟨index, found⟩) | ⟨index, site, found⟩)
    · exact ⟨_, found⟩
    · exact ⟨_, found⟩
    · exact ⟨_, found⟩

theorem first_types_iff :
    First Site.Before config.WrongAt .types cause ↔
      config.releaseTypes = [] ∧ cause = .configuration .noReleaseTypes := by
  constructor
  · rintro ⟨wrong, _⟩
    cases wrong with
    | types none => exact ⟨none, rfl⟩
  · rintro ⟨none, rfl⟩
    exact ⟨.types none, nofun⟩

theorem first_type_iff :
    First Site.Before config.WrongAt (.type index) cause ↔
      ∃ fault, First (· < ·) (Ranking.RefusedAt config.releaseTypes) index fault ∧
        cause = .configuration fault := by
  constructor
  · rintro ⟨wrong, earliest⟩
    cases wrong with
    | type refused =>
      refine ⟨_, ⟨refused, fun earlier less other wrong => ?_⟩, rfl⟩
      exact earliest (.type earlier) (.type_type less) _ (.type wrong)
  · rintro ⟨fault, ⟨refused, earliest⟩, rfl⟩
    refine ⟨.type refused, fun earlier before other wrong => ?_⟩
    cases wrong with
    | types none =>
      obtain ⟨_, listed, _⟩ := refused
      rw [none] at listed
      cases listed
    | type refused =>
      cases before with
      | type_type less => exact earliest _ less _ refused
    | rule => cases before

/-- Something is wrong first with the release types when they form no ranking. -/
theorem first_types_or_type_iff :
    (First Site.Before config.WrongAt .types cause ∨
        ∃ index, First Site.Before config.WrongAt (.type index) cause) ↔
      ∃ fault, Ranking.ofList config.releaseTypes = .error fault ∧
        cause = .configuration fault := by
  simp only [first_types_iff, first_type_iff, Ranking.ofList_eq_error_iff]
  constructor
  · rintro (⟨none, rfl⟩ | ⟨index, fault, first, rfl⟩)
    · exact ⟨_, .inl ⟨none, rfl⟩, rfl⟩
    · exact ⟨fault, .inr ⟨index, first⟩, rfl⟩
  · rintro ⟨_, ⟨none, rfl⟩ | ⟨index, first⟩, rfl⟩
    · exact .inl ⟨none, rfl⟩
    · exact .inr ⟨index, _, first, rfl⟩

/-- Where the release types form a ranking, something is wrong first in a rule when nothing is wrong
in the rules before and it is what is wrong first in the rule. -/
theorem first_rule_iff {site : Rule.Site}
    (formed : Ranking.ofList config.releaseTypes = .ok ranking) :
    First Site.Before config.WrongAt (.rule index site) cause ↔
      ∃ rule, config.rules[index]? = some rule ∧
        First Rule.Site.Before (rule.WrongAt config.releaseTypes) site cause ∧
        ∀ earlier < index, ∀ other, config.rules[earlier]? = some other →
          ∀ site cause, ¬ other.WrongAt config.releaseTypes site cause := by
  constructor
  · rintro ⟨wrong, earliest⟩
    cases wrong with
    | @rule _ rule _ _ listed wrong =>
      refine ⟨rule, listed, ⟨wrong, fun earlier before other found => ?_⟩, ?_⟩
      · exact earliest (.rule index earlier) (.within index before) _ (.rule listed found)
      · intro earlier less other stands place reason found
        exact earliest (.rule earlier place) (.rule_rule less place site) _ (.rule stands found)
  · rintro ⟨rule, listed, ⟨wrong, earliest⟩, sound⟩
    refine ⟨.rule listed wrong, fun earlier before other found => ?_⟩
    obtain ⟨nonempty, named, distinct⟩ := Ranking.exists_ofList_iff.mp ⟨ranking, formed⟩
    cases found with
    | types none => exact nonempty none
    | type refused => exact Ranking.not_refusedAt named distinct refused
    | rule stands found =>
      cases before with
      | rule_rule less => exact sound _ less _ stands _ _ found
      | within _ before =>
        cases listed.symm.trans stands
        exact earliest _ before _ found

/-- The fields of every rule are in normal form. -/
def Normal (config : Config) : Prop := ∀ rule ∈ config.rules, rule.Normal

instance : DecidablePred Normal :=
  fun config => inferInstanceAs (Decidable (∀ rule ∈ config.rules, rule.Normal))

/-- The rule at an index passes its check when nothing is wrong in it. -/
theorem forall_not_failsAt_checkRule_iff (normal : config.Normal)
    (ids : ranking.ids = config.releaseTypes) :
    (∀ cause, ¬ FailsAt (checkRule ranking) config.rules index cause) ↔
      ∀ rule, config.rules[index]? = some rule →
        ∀ site cause, ¬ rule.WrongAt config.releaseTypes site cause := by
  rw [forall_not_failsAt_iff]
  refine forall₂_congr fun rule listed => ?_
  rw [checkRule_eq_ok_iff, Rule.fits_iff (normal rule (List.mem_of_getElem? listed)), ids]

/-- Where the release types form a ranking, checking the rules fails as something is wrong first. -/
theorem first_rule_iff_forM (normal : config.Normal)
    (formed : Ranking.ofList config.releaseTypes = .ok ranking) :
    (∃ index site, First Site.Before config.WrongAt (.rule index site) cause) ↔
      config.rules.forM (checkRule ranking) = .error cause := by
  rw [forM_eq_error_iff]
  refine exists_congr fun index => ?_
  have ids := Ranking.ofList_eq_ok_iff.mp formed
  simp only [first_rule_iff formed, ← forall_not_failsAt_checkRule_iff normal ids]
  constructor
  · rintro ⟨site, rule, listed, first, sound⟩
    have failed : checkRule ranking rule = .error cause :=
      (Rule.checkRule_eq_error_iff (normal rule (List.mem_of_getElem? listed))).mpr
        ⟨site, ids ▸ first⟩
    exact ⟨⟨rule, listed, failed⟩, sound⟩
  · rintro ⟨⟨rule, listed, failed⟩, sound⟩
    obtain ⟨site, first⟩ := (Rule.checkRule_eq_error_iff
      (normal rule (List.mem_of_getElem? listed))).mp failed
    exact ⟨site, rule, listed, ids ▸ first, sound⟩

/-- **Validation fails at the first site at which something is wrong.** -/
theorem validate_eq_error_iff (normal : config.Normal) :
    config.validate = .error cause ↔
      ∃ site, First Site.Before config.WrongAt site cause := by
  rw [exists_site_iff, first_types_or_type_iff, validate, Config.ranking]
  cases formed : Ranking.ofList config.releaseTypes with
  | ok ranking =>
    rw [first_rule_iff_forM normal formed]
    cases checked : config.rules.forM (checkRule ranking) <;>
      simp [Except.mapError, bind, Except.bind, pure, Except.pure, checked]
  | error fault =>
    -- A rule comes behind the release types, with which something is wrong.
    have behind : ¬ ∃ index site, First Site.Before config.WrongAt (.rule index site) cause := by
      rintro ⟨index, site, first⟩
      rcases first_types_or_type_iff.mpr ⟨fault, formed, rfl⟩ with none | ⟨place, refused⟩
      · exact first.earliest _ (.types_rule index site) _ none.holds
      · exact first.earliest _ (.type_rule place index site) _ refused.holds
    rw [or_iff_left behind]
    simp [Except.mapError, bind, Except.bind, eq_comm]

/-- What makes a configuration valid. -/
structure Valid (config : Config) : Prop where
  listed : config.releaseTypes ≠ []
  named : ∀ id ∈ config.releaseTypes, id ≠ ""
  distinct : config.releaseTypes.Nodup
  known : ∀ rule ∈ config.rules, ∀ id, rule.release = some id → id ∈ config.releaseTypes
  compile : ∀ rule ∈ config.rules, (Json.object rule.fields).RegexesCompile

/-- A valid configuration is one whose release types form a ranking that its rules fit. -/
theorem valid_iff_fits (normal : config.Normal) :
    config.Valid ↔ ∃ ranking, Ranking.ofList config.releaseTypes = .ok ranking ∧
      ∀ rule ∈ config.rules, ranking.Fits rule := by
  constructor
  · rintro ⟨listed, named, distinct, known, compile⟩
    obtain ⟨ranking, formed⟩ := Ranking.exists_ofList_iff.mpr ⟨listed, named, distinct⟩
    have ids := Ranking.ofList_eq_ok_iff.mp formed
    refine ⟨ranking, formed, fun rule inside => ⟨fun id carried => ?_, ?_⟩⟩
    · exact ids ▸ known rule inside id carried
    · exact (Rule.exists_patterns_iff (normal rule inside)).mpr
        (Json.faultless_iff_regexesCompile.mpr (compile rule inside))
  · rintro ⟨ranking, formed, fits⟩
    obtain ⟨listed, named, distinct⟩ := Ranking.exists_ofList_iff.mp ⟨ranking, formed⟩
    refine ⟨listed, named, distinct, fun rule inside id carried => ?_, fun rule inside => ?_⟩
    · exact Ranking.ofList_eq_ok_iff.mp formed ▸ (fits rule inside).recognizes id carried
    · exact Json.faultless_iff_regexesCompile.mp
        ((Rule.exists_patterns_iff (normal rule inside)).mp (fits rule inside).compiles)

/-- A configuration that is read from a text is normal. -/
theorem normal_of_ofText {document : String} (read : ofText document = .ok config) :
    config.Normal := by
  cases spelled : Toml.read? document with
  | none =>
    rw [ofText, spelled] at read
    cases read
  | some entries =>
    obtain ⟨_, rules⟩ := (ofText_eq_ok_iff spelled).mp read
    intro rule inside
    cases listed : entries.lookup "release_rules" with
    | none =>
      rw [GivesRules, Gives, listed] at rules
      rw [rules] at inside
      cases inside
    | some value =>
      have each := (gives_iff_of_lookup listed).mp rules
      cases value with
      | array origin items =>
        obtain ⟨item, _, given⟩ := (mem_iff_of_mapM_ok each).mp inside
        exact Rule.normal_of_entry given
      | _ => cases each

/-- **What validation finds.** It succeeds exactly on the valid configurations, with the ranking
that lists their release types as they stand. On any other it fails, with the error of the first
site at which something is wrong. -/
theorem validate_verdict (normal : config.Normal) :
    ((∃ ranking, config.validate = .ok ranking) ↔ config.Valid) ∧
      (∀ ranking, config.validate = .ok ranking → ranking.ids = config.releaseTypes) ∧
      ∀ cause, config.validate = .error cause ↔
        ∃ site, First Site.Before config.WrongAt site cause := by
  refine ⟨?_, fun ranking valid => ?_, fun cause => validate_eq_error_iff normal⟩
  · simp only [validate_eq_ok_iff, valid_iff_fits normal]
  · exact Ranking.ids_of_ofList (validate_eq_ok_iff.mp valid).1

/-- A configuration with a rule that has an unknown release and a field that does not compile,
behind one that only has such a field. -/
def unclosedConfig : Config :=
  ⟨["major", "minor"],
    [ (Rule.ofRelease (some "minor")).withField "scope"
        (.array [.ofString "/api/", .ofString "/(/"]),
      (Rule.ofRelease (some "huge")).withField "scope" (.ofString "/[/") ]⟩

/-- The field of the first rule is the first site at which something is wrong; without that rule it
is the unknown release. Before both comes a release type that is repeated, and without rules nothing
is wrong. -/
theorem validate_verdict_unclosedConfig :
    unclosedConfig.Normal ∧
      (∃ site, First Site.Before unclosedConfig.WrongAt site
        (.pattern "scope[1]" RegexFault.malformed.message)) ∧
      (∃ site, First Site.Before (WrongAt ⟨["major", "minor"], unclosedConfig.rules.tail⟩) site
        (.configuration (.unknownReleaseType "huge"))) ∧
      (∃ site, First Site.Before (WrongAt ⟨["major", "major", ""], unclosedConfig.rules⟩) site
        (.configuration (.duplicateReleaseType "major"))) ∧
      Valid ⟨["major", "minor"], []⟩ := by
  have normal : unclosedConfig.Normal ∧ Normal ⟨["major", "minor"], unclosedConfig.rules.tail⟩ := by
    decide
  refine ⟨normal.1, ?_, ?_, ?_, ?_⟩
  · exact ((validate_verdict normal.1).2.2 _).mp rfl
  · exact ((validate_verdict normal.2).2.2 _).mp rfl
  · have same : Normal ⟨["major", "major", ""], unclosedConfig.rules⟩ := normal.1
    exact ((validate_verdict same).2.2 _).mp rfl
  · have empty : Normal ⟨["major", "minor"], []⟩ := nofun
    exact (validate_verdict empty).1.mp ⟨_, rfl⟩

end Config

end ReleaseAnalysis
