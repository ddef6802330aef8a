import ReleaseAnalysis.FileTree
import ReleaseAnalysis.Main
import ReleaseAnalysis.Regex.Parser
import ReleaseAnalysis.Regex.Resolution
import ReleaseAnalysis.Proofs.Ranking.Findings
import ReleaseAnalysis.Proofs.Pattern.Compilation
import ReleaseAnalysis.Proofs.Pattern.Faults
import ReleaseAnalysis.Proofs.Pattern.Matching
import ReleaseAnalysis.Proofs.Resolution.Step
import ReleaseAnalysis.Proofs.Resolution.Highest
import ReleaseAnalysis.Proofs.Resolution.Faults
import ReleaseAnalysis.Proofs.Resolution.Events
import ReleaseAnalysis.Proofs.Resolution.Monotone
import ReleaseAnalysis.Proofs.Analysis.Outcome
import ReleaseAnalysis.Proofs.Config.Validation
import ReleaseAnalysis.Proofs.Analysis.Soundness
import ReleaseAnalysis.Proofs.Analysis.Fallback
import ReleaseAnalysis.Proofs.Analysis.Reordering
import ReleaseAnalysis.Proofs.Json.Scalars
import ReleaseAnalysis.Proofs.Json.Parts
import ReleaseAnalysis.Proofs.Json.Normal
import ReleaseAnalysis.Proofs.Json.Places
import ReleaseAnalysis.Proofs.Json.RoundTrip
import ReleaseAnalysis.Proofs.Json.Delivery
import ReleaseAnalysis.Proofs.Rule.Reading
import ReleaseAnalysis.Proofs.Rule.Display
import ReleaseAnalysis.Proofs.Rule.Reserved
import ReleaseAnalysis.Proofs.Workflow.Commits
import ReleaseAnalysis.Proofs.CommandLine.Agreement
import ReleaseAnalysis.Proofs.Rule.Testing
import ReleaseAnalysis.Proofs.Number.Rounding
import ReleaseAnalysis.Proofs.Pattern.Preorder
import ReleaseAnalysis.Proofs.Pattern.Acceptance
import ReleaseAnalysis.Proofs.Number.Exactness
import ReleaseAnalysis.Proofs.Pattern.Integers
import ReleaseAnalysis.Proofs.Json.Reordering
import ReleaseAnalysis.Proofs.Rule.Formats
import ReleaseAnalysis.Proofs.Config.Reading
import ReleaseAnalysis.Proofs.Ranking.Order
import ReleaseAnalysis.Proofs.Analysis.Builtin
import ReleaseAnalysis.Proofs.Rule.Members
import ReleaseAnalysis.Proofs.Workflow.Log
import ReleaseAnalysis.Proofs.Pattern.Shape
import ReleaseAnalysis.Proofs.Ranking.Formation
import ReleaseAnalysis.Proofs.Config.Violations
import ReleaseAnalysis.Proofs.Config.Loading
import ReleaseAnalysis.Proofs.Json.Leaves
import ReleaseAnalysis.Proofs.FileTree.Paths
import ReleaseAnalysis.Proofs.CommandLine.Reads
