import ReleaseAnalysis.Config
import ReleaseAnalysis.Proofs.Resolution.Faults

/-!
# What a valid configuration promises

A rule fits a ranking when its release is recognized and its patterns compile (`Ranking.Fits`).
A configuration is valid exactly when its release types form a ranking that all its rules fit
(`Config.validate_eq_ok_iff`).

Rules are compiled again whenever they are tested, and their releases are looked up again whenever
they match. A rule that fits passes both for every commit (`Ranking.Fits.not_ruleFault`), so a
resolution of rules that fit cannot fail (`Ranking.exists_outcome_of_fits`).
-/

set_option autoImplicit false

namespace ReleaseAnalysis

namespace Ranking

variable {ranking : Ranking} {commit : Commit} {rule : Rule} {rules : List Rule}

/-- The ranking of a list keeps the list. -/
theorem ids_of_ofList {ids : List String} (formed : ofList ids = .ok ranking) :
    ranking.ids = ids := by
  unfold ofList at formed
  split at formed
  · cases formed
  · split at formed
    · cases formed
    · cases formed
      rfl

/-- A rule fits a ranking: its release is recognized and its patterns compile. -/
structure Fits (ranking : Ranking) (rule : Rule) : Prop where
  recognizes : ranking.Recognizes rule.release
  compiles : ∃ patterns, rule.patterns = .ok patterns

/-- A rule that fits is never at fault. -/
theorem Fits.not_ruleFault {cause : AnalysisError} (fits : ranking.Fits rule) :
    ¬ ranking.RuleFault commit rule cause := by
  intro fault
  cases fault with
  | pattern untested => exact Rule.matches_ne_error fits.compiles untested
  | release hit carried unknown => exact unknown (fits.recognizes _ carried)

/-- Rules that fit are resolved for every commit. -/
theorem exists_outcome_of_fits (fits : ∀ rule ∈ rules, ranking.Fits rule) (commit : Commit) :
    ∃ resolution, (ranking.resolve rules commit).outcome = .ok resolution := by
  cases ended : (ranking.resolve rules commit).outcome with
  | ok resolution => exact ⟨resolution, rfl⟩
  | error cause =>
    obtain ⟨_, rule, listed, fault, _⟩ := outcome_eq_error_iff.mp ended
    exact absurd fault (fits rule (List.mem_of_getElem? listed)).not_ruleFault

end Ranking

namespace Config

variable {config : Config} {ranking : Ranking} {rule : Rule}

/-- The check of a rule passes exactly the rules that fit. -/
theorem checkRule_eq_ok_iff : checkRule ranking rule = .ok () ↔ ranking.Fits rule := by
  simp only [checkRule, bind_eq_ok_iff, mapError_eq_ok_iff]
  constructor
  · rintro ⟨_, known, patterns, compiled, _⟩
    exact ⟨Ranking.check_eq_ok_iff.mp known, patterns, compiled⟩
  · rintro ⟨recognizes, patterns, compiled⟩
    exact ⟨(), Ranking.check_eq_ok_iff.mpr recognizes, patterns, compiled, rfl⟩

/-- **A configuration is valid exactly when its release types form a ranking that all its rules
fit.** -/
theorem validate_eq_ok_iff :
    config.validate = .ok ranking ↔
      Ranking.ofList config.releaseTypes = .ok ranking ∧
        ∀ rule ∈ config.rules, ranking.Fits rule := by
  simp only [validate, Config.ranking, bind_eq_ok_iff, mapError_eq_ok_iff, ← checkRule_eq_ok_iff]
  constructor
  · rintro ⟨formed, found, _, passed, same⟩
    cases same
    exact ⟨found, forM_eq_ok_iff.mp passed⟩
  · rintro ⟨found, passed⟩
    exact ⟨ranking, found, (), forM_eq_ok_iff.mpr passed, rfl⟩

end Config

end ReleaseAnalysis
