import ReleaseAnalysis.Workflow

/-!
# The command line

The program takes options only. An option with a value takes it attached or from the next
argument, which must not look like an option itself; no option may be given twice. Help is shown as
soon as it is asked for; a mistake before that ends the program with code 2.

The program proper reads the commits first and shows them, then loads the configuration and
analyses. So a failure to read the commits leaves the output empty, and every later failure leaves
the list of commits.
-/

set_option autoImplicit false

namespace ReleaseAnalysis

/-- What a run of the program leaves: the exit code and the two outputs. -/
structure Response where
  exit : Nat
  output : String
  errors : String
deriving DecidableEq, Repr

/-- The options of a run; an option not given is `none` or `false`. -/
structure Options where
  config : Option String
  commits : Option String
  listTypes : Bool
  verbose : Bool
  version : Bool
deriving DecidableEq, Repr

/-- What the arguments ask for. -/
inductive Invocation
  | run (options : Options)
  | help
  | mistake
deriving DecidableEq, Repr

namespace Options

/-- No option given. -/
def empty : Options := ⟨none, none, false, false, false⟩

/-- The options that have a name only. -/
inductive Flag
  | listTypes
  | verbose
  | version

/-- The options that have a value. -/
inductive Setting
  | config
  | commits

/-- Takes a flag, unless it was given before. -/
def take (options : Options) : Flag → Option Options
  | .listTypes => if options.listTypes then none else some { options with listTypes := true }
  | .verbose => if options.verbose then none else some { options with verbose := true }
  | .version => if options.version then none else some { options with version := true }

/-- Takes a value, unless one was given before. -/
def assign (options : Options) (setting : Setting) (value : String) : Option Options :=
  match setting, options.config, options.commits with
  | .config, none, _ => some { options with config := some value }
  | .commits, _, none => some { options with commits := some value }
  | _, _, _ => none

/-- What a word asks for. -/
inductive Request
  | help
  | flag (flag : Flag)
  | setting (setting : Setting)

/-- The request of a long name. -/
def longRequest : String → Option Request
  | "help" => some .help
  | "version" => some (.flag .version)
  | "verbose" => some (.flag .verbose)
  | "list-types" => some (.flag .listTypes)
  | "config" => some (.setting .config)
  | "commits" => some (.setting .commits)
  | _ => none

/-- The request of a short name. -/
def shortRequest : Char → Option Request
  | 'h' => some .help
  | 'v' => some (.flag .version)
  | 'c' => some (.setting .config)
  | _ => none

/-- An argument taken apart. -/
inductive Word
  /-- Two dashes alone: no options follow. -/
  | dashes
  /-- Two dashes, a name, and a value behind an equals sign. -/
  | long (name : String) (value : Option String)
  /-- A dash and letters. -/
  | short (letters : List Char)
  /-- No option; a single dash is none. -/
  | plain (text : String)

/-- The name and the attached value of a long option. -/
def splitValue (text : List Char) : String × Option String :=
  match text.dropWhile (· != '=') with
  | [] => (String.ofList text, none)
  | _ :: value => (String.ofList (text.takeWhile (· != '=')), some (String.ofList value))

/-- Takes an argument apart. -/
def word (argument : String) : Word :=
  match argument.toList with
  | ['-', '-'] => .dashes
  | '-' :: '-' :: text => .long (splitValue text).1 (splitValue text).2
  | '-' :: letter :: letters => .short (letter :: letters)
  | _ => .plain argument

/-- How far a cluster of letters leads: to the options with all its flags, to an option that still
needs its value, or to an end. -/
inductive Cluster
  | taken (options : Options)
  | pending (options : Options) (setting : Setting)
  | ended (invocation : Invocation)

/-- The value attached to a letter; an equals sign before it is left out. -/
def attachedValue : List Char → String
  | '=' :: value => String.ofList value
  | value => String.ofList value

/-- Takes the letters of a cluster one by one; what follows an option with a value is its value. -/
def takeLetters (options : Options) : List Char → Cluster
  | [] => .taken options
  | letter :: rest =>
    match shortRequest letter with
    | none => .ended .mistake
    | some .help => .ended .help
    | some (.flag flag) =>
      match options.take flag with
      | some options => takeLetters options rest
      | none => .ended .mistake
    | some (.setting setting) =>
      if rest.isEmpty then .pending options setting
      else
        match options.assign setting (attachedValue rest) with
        | some options => .taken options
        | none => .ended .mistake

/-- Takes a long option. -/
def takeLong (options : Options) (name : String) (value : Option String) : Cluster :=
  match longRequest name, value with
  | some .help, none => .ended .help
  | some (.flag flag), none => (options.take flag).elim (.ended .mistake) .taken
  | some (.setting setting), none => .pending options setting
  | some (.setting setting), some value =>
    (options.assign setting value).elim (.ended .mistake) .taken
  | _, _ => .ended .mistake

mutual

/-- Goes through the arguments. -/
def parseFrom (options : Options) : List String → Invocation
  | [] => .run options
  | argument :: rest =>
    match word argument with
    | .plain _ => .mistake
    | .dashes => if rest.isEmpty then .run options else .mistake
    | .long name value => continueWith (options.takeLong name value) rest
    | .short letters => continueWith (options.takeLetters letters) rest

/-- Goes on after an argument, taking the value of an option from the next one if need be. -/
def continueWith : Cluster → List String → Invocation
  | .ended invocation, _ => invocation
  | .taken options, rest => parseFrom options rest
  | .pending _ _, [] => .mistake
  | .pending options setting, argument :: rest =>
    match word argument with
    | .plain value =>
      match options.assign setting value with
      | some options => parseFrom options rest
      | none => .mistake
    | _ => .mistake

end

/-- What the arguments ask for. -/
def parse (arguments : List String) : Invocation := empty.parseFrom arguments

/-- The path of the commits. -/
def commitsPath (options : Options) : String := options.commits.getD Workflow.inputPath

/-- Whether a run reads the standard input. -/
def readsInput (options : Options) : Bool :=
  !options.version && !options.listTypes && options.commitsPath = Workflow.inputPath

/-- The paths that a run reads, in this order: the commits and then the configuration. -/
def pathsRead (options : Options) : List String :=
  let config := options.config.getD Config.localPath
  if options.version then []
  else if options.listTypes || options.commitsPath = Workflow.inputPath then [config]
  else [options.commitsPath, config]

end Options

namespace CommandLine

/-- Lines put under each other. -/
def lines (texts : List String) : String := String.join (texts.map (· ++ "\n"))

/-- The help text. -/
def helpText : String :=
  lines [
    "Determine the release type triggered by parsed commits",
    "",
    "Usage: commit-analyzer [OPTIONS]",
    "",
    "Options:",
    "  -c, --config <CONFIG>    Custom configuration file path",
    "      --commits <COMMITS>  JSON file with an array of parsed commits ('-' reads stdin) "
      ++ "[default: -]",
    "      --list-types         Show the configured release types and exit",
    "      --verbose            Log every rule evaluation",
    "  -v, --version            Print version information",
    "  -h, --help               Print help"]

/-- The version line. -/
def versionText : String := "commit-analyzer 0.1.0\n"

/-- A text in bold. -/
def bold (text : String) : String := "\x1b[1m" ++ text ++ "\x1b[0m"

/-- The decimal text of a number. -/
def number (n : Nat) : String := String.ofList (Nat.toDigits 10 n)

/-- Lines numbered from one. -/
def numbered (texts : List String) : String :=
  lines (texts.mapIdx fun index text => "  " ++ number (index + 1) ++ ". " ++ text)

/-- The list of release types. -/
def typesText (ranking : Ranking) : String :=
  bold "Release types (highest first):" ++ "\n" ++ numbered ranking.ids

/-- How many commits are shown. -/
def shownCommits : Nat := 10

/-- How many characters of a summary are shown. -/
def shownCharacters : Nat := 60

/-- The list of commits about to be analysed. -/
def commitsText (commits : List Commit) : String :=
  let shown := (commits.take shownCommits).map fun commit =>
    String.ofList (commit.summary.toList.take shownCharacters)
  let rest :=
    if shownCommits < commits.length then
      "  ... and " ++ number (commits.length - shownCommits) ++ " more commits\n"
    else ""
  "\n" ++ bold ("Analyzing " ++ number commits.length ++ " commits") ++ "\n" ++ numbered shown
    ++ rest

/-- The line that reports the release. -/
def releaseText : Option String → String
  | some release => "\x1b[32m✓\x1b[0m " ++ releaseLabel (some release) ++ "\n"
  | none => "\x1b[33m→\x1b[0m " ++ releaseLabel none ++ "\n"

/-- The line that reports a failed step. -/
def errorText (error : WorkflowError) : String := "\x1b[31mERROR:\x1b[0m " ++ error.message ++ "\n"

/-- The lines that report a failure of the program. -/
def failureText (error : WorkflowError) : String := "Error: " ++ error.report ++ "\n"

/-- A line of the log. -/
def logLine (entry : LogEntry) : String :=
  String.join (entry.level.name :: " " :: entry.message ::
    entry.fields.map fun field => " " ++ field.1 ++ "=" ++ field.2) ++ "\n"

/-- The log, which is shown on demand. -/
def logText (options : Options) (entries : List LogEntry) : String :=
  if options.verbose then String.join (entries.map logLine) else ""

/-- Lists the configured release types. -/
def listTypes (surroundings : Surroundings) (options : Options) : Response :=
  let ranking := do
    let config ← Workflow.loadConfig surroundings options.config
    config.ranking.mapError (⟨none, ·⟩)
  match ranking with
  | .ok ranking => ⟨0, typesText ranking, ""⟩
  | .error error => ⟨1, "", failureText error⟩

/-- Analyses the commits. -/
def analyze (surroundings : Surroundings) (options : Options) : Response :=
  match Workflow.readCommits surroundings options.commitsPath with
  | .error error => ⟨1, "", errorText error⟩
  | .ok commits =>
    match Workflow.loadConfig surroundings options.config with
    | .error error => ⟨1, commitsText commits, failureText error⟩
    | .ok config =>
      let run := Workflow.analyze config commits
      let log := logText options run.entries
      match run.outcome with
      | .ok result => ⟨0, commitsText commits ++ releaseText result.release, log⟩
      | .error error => ⟨1, commitsText commits, log ++ errorText error⟩

/-- Runs the program with options. -/
def runWith (surroundings : Surroundings) (options : Options) : Response :=
  if options.version then ⟨0, versionText, ""⟩
  else if options.listTypes then listTypes surroundings options
  else analyze surroundings options

/-- What stands on the error output after a mistake. The program names the mistake and the argument;
one wording stands here for all of them, and only the exit code and the empty output are the
program's. -/
def mistakeText : String :=
  lines [
    "error: unexpected, repeated or incomplete argument",
    "",
    "Usage: commit-analyzer [OPTIONS]",
    "",
    "For more information, try '--help'."]

/-- Runs the program with arguments. -/
def run (surroundings : Surroundings) (arguments : List String) : Response :=
  match Options.parse arguments with
  | .help => ⟨0, helpText, ""⟩
  | .mistake => ⟨2, "", mistakeText⟩
  | .run options => runWith surroundings options

end CommandLine

end ReleaseAnalysis
