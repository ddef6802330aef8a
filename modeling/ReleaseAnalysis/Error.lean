/-!
# Why an analysis fails

Every failure is a cause with the data that names the offender; the wording is derived from it in
one place (`AnalysisError.message`).
-/

set_option autoImplicit false

namespace ReleaseAnalysis

/-- What can be wrong with the configured release types or with a commit. -/
inductive ConfigurationFault
  | noReleaseTypes
  | emptyReleaseType
  | duplicateReleaseType (id : String)
  | unknownReleaseType (id : String)
  /-- A commit is not an object; carries its compact text. -/
  | commitNotObject (found : String)
  | other (text : String)
deriving DecidableEq, Repr

/-- The wording of a configuration fault. -/
def ConfigurationFault.message : ConfigurationFault → String
  | .noReleaseTypes => "Release types must list at least one identifier"
  | .emptyReleaseType => "Release types must not contain an empty identifier"
  | .duplicateReleaseType id => "Duplicate release type '" ++ id ++ "'"
  | .unknownReleaseType id => "Unknown release type '" ++ id ++ "'"
  | .commitNotObject found => "Commit must be an object, got " ++ found
  | .other text => text

/-- What can be wrong with a document. -/
inductive DocumentFault
  /-- The text is not of the format. -/
  | malformed
  /-- A value has another kind than its place asks for. -/
  | wrongShape
  /-- A rule says `release = true`. -/
  | releaseTrue
deriving DecidableEq, Repr

/-- The wording of a document fault. The program prints what its reader of the format reports, with
line and column; that report is left out here, and of these wordings only the last is a part of
it. -/
def DocumentFault.message : DocumentFault → String
  | .malformed => "malformed document"
  | .wrongShape => "a value of another kind was expected"
  | .releaseTrue => "release must be a release type or false, got true"

/-- Why a file cannot be read as text. -/
inductive FileFault
  | notFound
  | isDirectory
  | notDirectory
  /-- A name or the whole path has more bytes than the system takes. -/
  | nameTooLong
  /-- The path holds the character zero. -/
  | zeroInPath
  | notText
  /-- Any other refusal of the system, such as a denied permission or a failed device, by its number
  and its wording. -/
  | refused (number : Nat) (wording : String)
deriving DecidableEq, Repr

/-- The fault that a refusal of the system is. -/
def FileFault.ofRefusal (number : Nat) (wording : String) : FileFault :=
  match number with
  | 2 => .notFound
  | 20 => .notDirectory
  | 21 => .isDirectory
  | 36 => .nameTooLong
  | _ => .refused number wording

/-- The wording of a file fault; what the system refuses carries the number of its refusal. -/
def FileFault.message : FileFault → String
  | .notFound => "No such file or directory (os error 2)"
  | .isDirectory => "Is a directory (os error 21)"
  | .notDirectory => "Not a directory (os error 20)"
  | .nameTooLong => "File name too long (os error 36)"
  | .zeroInPath => "file name contained an unexpected NUL byte"
  | .notText => "stream did not contain valid UTF-8"
  | .refused number wording =>
    wording ++ " (os error " ++ String.ofList (Nat.toDigits 10 number) ++ ")"

/-- Why an analysis fails. -/
inductive AnalysisError
  | configuration (fault : ConfigurationFault)
  /-- A rule field holds a regular expression that does not compile. -/
  | pattern (field : String) (reason : String)
  /-- The configuration file is no configuration. -/
  | toml (fault : DocumentFault)
  /-- A text of commits or rules is none. -/
  | json (fault : DocumentFault)
  | file (fault : FileFault)
deriving DecidableEq, Repr

/-- The wording of an error. -/
def AnalysisError.message : AnalysisError → String
  | .configuration fault => "Configuration error: " ++ fault.message
  | .pattern field reason => "Invalid pattern in rule field '" ++ field ++ "': " ++ reason
  | .toml fault => "Config parsing error: " ++ fault.message
  | .json fault => "JSON error: " ++ fault.message
  | .file fault => "I/O error: " ++ fault.message

/-- The wording of the fault of a file or document that an error passes on. -/
def AnalysisError.fault? : AnalysisError → Option String
  | .toml fault => some fault.message
  | .json fault => some fault.message
  | .file fault => some fault.message
  | _ => none

end ReleaseAnalysis
