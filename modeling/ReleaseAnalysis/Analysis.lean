import ReleaseAnalysis.Config
import ReleaseAnalysis.Resolution

/-!
# Analysing commits

For one commit the custom rules are resolved first. If any of them matches, their resolution
decides, even when it names no release; only otherwise are the built-in rules resolved.

A list of commits triggers the highest release that any of its commits triggers. The commits are
taken in order, and those after the first that triggers the highest release type are not looked
at. What happens is logged; an error ends the log.
-/

set_option autoImplicit false

namespace ReleaseAnalysis

/-- The label of an optional release. -/
def releaseLabel : Option String → String
  | some release => release ++ " release"
  | none => "no release"

/-- An entry of the log of an analysis. -/
inductive LogEntry
  | commitStarted (summary : String)
  | ruleEvent (event : Event)
  | commitFinished (release : Option String)
  | highestReached
  | complete (commits : Nat) (release : Option String)

namespace LogEntry

/-- How much a log entry matters. -/
inductive Level
  | info
  | debug
deriving DecidableEq, Repr

/-- The name of a level. -/
def Level.name : Level → String
  | .info => "INFO"
  | .debug => "DEBUG"

/-- The level of an entry. -/
def level : LogEntry → Level
  | .ruleEvent _ => .debug
  | .highestReached => .debug
  | _ => .info

/-- The message of an entry. -/
def message : LogEntry → String
  | .commitStarted summary => "Analyzing commit: " ++ summary
  | .ruleEvent (.raised _ _) => "rule matched commit and raised release type"
  | .ruleEvent (.superseded _ _ _) =>
    "rule matched commit but a higher release type was already found"
  | .ruleEvent (.highestReached _) => "highest release type reached, stopping analysis"
  | .commitFinished (some release) => "The release type for the commit is " ++ release
  | .commitFinished none => "The commit should not trigger a release"
  | .highestReached => "Highest release type reached, skipping remaining commits"
  | .complete commits release =>
    "Analysis of " ++ String.ofList (Nat.toDigits 10 commits) ++ " commits complete: "
      ++ releaseLabel release

/-- The named data of an entry. -/
def fields : LogEntry → List (String × String)
  | .ruleEvent (.raised rule release) => [("rule", rule.display), ("release", release)]
  | .ruleEvent (.superseded rule release best) =>
    [("rule", rule.display), ("release", release.getD "none"), ("best", best.getD "none")]
  | .ruleEvent (.highestReached release) => [("release", release)]
  | _ => []

/-- The event of an entry that reports one. -/
def event? : LogEntry → Option Event
  | .ruleEvent event => some event
  | _ => none

end LogEntry

/-- A ranking and custom rules that fit it. -/
structure Analyzer where
  ranking : Ranking
  rules : List Rule

namespace Analyzer

/-- The analyzer of a valid configuration. -/
def ofConfig (config : Config) : Except AnalysisError Analyzer :=
  config.validate.map fun ranking => ⟨ranking, config.rules⟩

/-- The release that a commit triggers, with the events of resolving it. -/
def analyzeCommit (analyzer : Analyzer) (commit : Commit) :
    Recorded Event AnalysisError (Option String) :=
  let custom := analyzer.ranking.resolve analyzer.rules commit
  match custom.outcome with
  | .error cause => ⟨custom.entries, .error cause⟩
  | .ok resolution =>
    if 0 < resolution.matched then ⟨custom.entries, .ok resolution.release⟩
    else ((analyzer.ranking.resolve Rule.defaults commit).map Resolution.release).after
      custom.entries

/-- The log of analysing one commit on its own, up to its release. -/
def commitLog (commit : Commit) (events : List Event) : List LogEntry :=
  .commitStarted commit.summary :: events.map .ruleEvent

/-- Analyses commits, going on from the best release so far. -/
def analyzeFrom (analyzer : Analyzer) (best : Option String) :
    List Commit → Recorded LogEntry AnalysisError (Option String)
  | [] => .ok best
  | commit :: rest =>
    let single := analyzer.analyzeCommit commit
    let opening := commitLog commit single.entries
    match single.outcome with
    | .error cause => ⟨opening, .error cause⟩
    | .ok release =>
      let finished := opening ++ [.commitFinished release]
      match analyzer.ranking.outranks best release with
      | .error fault => ⟨finished, .error (.configuration fault)⟩
      | .ok raises =>
        let next := if raises then release else best
        if next = some analyzer.ranking.highest then ⟨finished ++ [.highestReached], .ok next⟩
        else (analyzer.analyzeFrom next rest).after finished

/-- The highest release that the commits trigger, with the log. -/
def analyze (analyzer : Analyzer) (commits : List Commit) :
    Recorded LogEntry AnalysisError (Option String) :=
  let run := analyzer.analyzeFrom none commits
  match run.outcome with
  | .error cause => ⟨run.entries, .error cause⟩
  | .ok release => ⟨run.entries ++ [.complete commits.length release], .ok release⟩

end Analyzer

end ReleaseAnalysis
