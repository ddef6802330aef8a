import ReleaseAnalysis.Ranking
import ReleaseAnalysis.Rule

/-!
# Configurations

A configuration lists the release types and the custom rules. It is valid when the list is a
ranking and every rule has a recognized release and compiles; the rules are checked in order, the
release of a rule before its patterns.
-/

set_option autoImplicit false

namespace ReleaseAnalysis

/-- The release types and the custom rules. -/
structure Config where
  releaseTypes : List String
  rules : List Rule

namespace Config

/-- The built-in release types and no custom rule. -/
def default : Config := ⟨Ranking.defaultIds, []⟩

/-- The ranking that the release types form. -/
def ranking (config : Config) : Except AnalysisError Ranking :=
  (Ranking.ofList config.releaseTypes).mapError .configuration

/-- Checks the release and the patterns of a rule. -/
def checkRule (ranking : Ranking) (rule : Rule) : Except AnalysisError Unit := do
  (ranking.check rule.release).mapError .configuration
  let _ ← rule.patterns

/-- The ranking of a valid configuration, or the first fault. -/
def validate (config : Config) : Except AnalysisError Ranking := do
  let ranking ← config.ranking
  config.rules.forM (checkRule ranking)
  return ranking

end Config

end ReleaseAnalysis
