import ReleaseAnalysis.Config.Reader

/-!
# The surroundings of a run

A run of the program sees the places that its paths lead to, the configuration file of the user and
the standard input. What is found at a place stays the same during a run. A file is read as text
only if the system lets it be read and its bytes are UTF-8.

The configuration is looked for in a fixed order: a path given by the user is used whatever is
found there; without one the local file `commitanalyzer.toml` is used if it exists, else the file of
the user if that exists, else the built-in configuration. Only whether a file exists decides
which one is used; that it cannot be read or is no configuration is an error.
-/

set_option autoImplicit false

namespace ReleaseAnalysis

/-- What is found at a place in the file system. -/
inductive Entry
  | file (content : ByteArray)
  | directory
  /-- Something that the system does not let be read, for the reason given. -/
  | unreadable (fault : FileFault)
  /-- Nothing, or nothing that can be looked at, for the reason given. -/
  | missing (fault : FileFault)

namespace Entry

/-- Whether anything is found; it need not be readable. -/
def isPresent : Entry → Bool
  | .missing _ => false
  | _ => true

/-- The text of bytes that are UTF-8. -/
def decode (content : ByteArray) : Except FileFault String :=
  match String.fromUTF8? content with
  | some text => .ok text
  | none => .error .notText

theorem decode_toUTF8 (text : String) : decode text.toUTF8 = .ok text := by
  rw [decode, String.fromUTF8?, String.toUTF8_eq_toByteArray, dif_pos text.isValidUTF8]
  rfl

/-- The text of a file. -/
def read : Entry → Except FileFault String
  | .file content => decode content
  | .directory => .error .isDirectory
  | .unreadable fault => .error fault
  | .missing fault => .error fault

end Entry

/-- What a run of the program sees. -/
structure Surroundings where
  /-- What is found at a path. -/
  entry : String → Entry
  /-- The configuration file of the user. -/
  userConfig : Entry
  /-- The standard input. -/
  input : ByteArray

namespace Config

/-- The path of the local configuration file. -/
def localPath : String := "./commitanalyzer.toml"

/-- The name of the user's configuration file in the configuration directory. -/
def userFileName : String := ".commitanalyzer.toml"

/-- The configuration of a file. -/
def ofEntry (entry : Entry) : Except AnalysisError Config := do
  let text ← entry.read.mapError AnalysisError.file
  (ofText text).mapError AnalysisError.toml

/-- The configuration of a run. -/
def load (surroundings : Surroundings) : Option String → Except AnalysisError Config
  | some path => ofEntry (surroundings.entry path)
  | none =>
    if (surroundings.entry localPath).isPresent then ofEntry (surroundings.entry localPath)
    else if surroundings.userConfig.isPresent then ofEntry surroundings.userConfig
    else .ok default

end Config

end ReleaseAnalysis
