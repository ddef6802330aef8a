import ReleaseAnalysis.Analysis
import ReleaseAnalysis.Json.Reader
import ReleaseAnalysis.Surroundings

/-!
# From files to a release

The workflow loads the configuration, reads the commits and analyses them. The commits are a JSON
array of objects, in a file or on the standard input. A failure carries the step in which it
happened, except a failure of the analysis itself. It is reported from the step inwards: the step,
the cause, and the fault of the file or document that the cause passes on.
-/

set_option autoImplicit false

namespace ReleaseAnalysis

/-- The step in which a workflow failed. -/
inductive Step
  | loadingConfig
  /-- The commits could not be read from a path. -/
  | readingFile (path : String)
  | readingInput
  | parsingCommits
  | checkingConfig
deriving DecidableEq, Repr

/-- The wording of a step. -/
def Step.message : Step → String
  | .loadingConfig => "Error loading config"
  | .readingFile path => "Failed to read commits from " ++ path
  | .readingInput => "Failed to read commits from stdin"
  | .parsingCommits => "Commits must be a JSON array of objects"
  | .checkingConfig => "Invalid release configuration"

/-- Whether a step reads commits; it meets the faults of files and documents directly. -/
def Step.readsCommits : Step → Bool
  | .readingFile _ | .readingInput | .parsingCommits => true
  | .loadingConfig | .checkingConfig => false

/-- A failed workflow: the step, if one is named, and the cause. -/
structure WorkflowError where
  step : Option Step
  cause : AnalysisError
deriving DecidableEq, Repr

namespace WorkflowError

/-- The cause as a failure of a step. -/
def during (step : Step) (cause : AnalysisError) : WorkflowError := ⟨some step, cause⟩

/-- The wordings from the step inwards. -/
def wordings (error : WorkflowError) : List String :=
  let fault := error.cause.fault?.toList
  let cause :=
    if error.step.any Step.readsCommits then fault else error.cause.message :: fault
  (error.step.map Step.message).toList ++ cause

/-- The wordings on one line. -/
def message (error : WorkflowError) : String := ": ".intercalate error.wordings

/-- The first wording and, in a paragraph of its own, what it rests on; several wordings are
numbered from zero. -/
def report (error : WorkflowError) : String :=
  match error.wordings with
  | [] => ""
  | [whole] => whole
  | [whole, cause] => whole ++ "\n\nCaused by:\n    " ++ cause
  | whole :: causes =>
    whole ++ "\n\nCaused by:" ++ String.join (causes.mapIdx fun index cause =>
      "\n    " ++ String.ofList (Nat.toDigits 10 index) ++ ": " ++ cause)

end WorkflowError

/-- The outcome of a workflow. -/
structure WorkflowResult where
  release : Option String
  commits : Nat
deriving DecidableEq, Repr

namespace Workflow

/-- The commit of a value that is an object. -/
def commitOf? : Json → Option Commit
  | .object members => some ⟨members⟩
  | _ => none

/-- The commits that a text spells. -/
def parseCommits (text : String) : Except WorkflowError (List Commit) :=
  match Json.read text with
  | none => .error (.during .parsingCommits (.json .malformed))
  | some value =>
    match value.array?.bind (·.mapM commitOf?) with
    | some commits => .ok commits
    | none => .error (.during .parsingCommits (.json .wrongShape))

/-- The path that stands for the standard input. -/
def inputPath : String := "-"

/-- The commits at a path. -/
def readCommits (surroundings : Surroundings) (path : String) :
    Except WorkflowError (List Commit) := do
  let text ←
    if path = inputPath then
      (Entry.decode surroundings.input).mapError fun fault => .during .readingInput (.file fault)
    else
      (surroundings.entry path).read.mapError fun fault => .during (.readingFile path) (.file fault)
  parseCommits text

/-- The configuration of a run. -/
def loadConfig (surroundings : Surroundings) (path : Option String) :
    Except WorkflowError Config :=
  (Config.load surroundings path).mapError (.during .loadingConfig)

/-- Analyses commits, with the log. -/
def analyze (config : Config) (commits : List Commit) :
    Recorded LogEntry WorkflowError WorkflowResult :=
  match Analyzer.ofConfig config with
  | .error cause => .error (.during .checkingConfig cause)
  | .ok analyzer =>
    ((analyzer.analyze commits).mapError (⟨none, ·⟩)).map (⟨·, commits.length⟩)

/-- Loads the configuration, reads the commits and analyses them. -/
def run (surroundings : Surroundings) (configPath : Option String) (commitsPath : String) :
    Except WorkflowError WorkflowResult := do
  let config ← loadConfig surroundings configPath
  let commits ← readCommits surroundings commitsPath
  (analyze config commits).outcome

end Workflow

end ReleaseAnalysis
