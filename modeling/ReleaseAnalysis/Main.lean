import ReleaseAnalysis.CommandLine

/-!
# The program

The outer layer: it finds out what stands at the paths of a run, hands that to `CommandLine.run` and
writes the response. The paths are looked at in the order in which the program reads them, and only
those that it reads: what one of them takes out of a pipe is not there for the next.
-/

set_option autoImplicit false

open ReleaseAnalysis

/-- The number and the wording with which the system refuses. -/
def refusal : IO.Error → UInt32 × String
  | .alreadyExists _ number wording | .invalidArgument _ number wording
  | .permissionDenied _ number wording | .resourceExhausted _ number wording
  | .inappropriateType _ number wording | .noSuchThing _ number wording
  | .interrupted _ number wording | .noFileOrDirectory _ number wording
  | .otherError number wording | .resourceBusy number wording | .resourceVanished number wording
  | .unsupportedOperation number wording | .hardwareFault number wording
  | .unsatisfiedConstraints number wording | .illegalOperation number wording
  | .protocolError number wording | .timeExpired number wording => (number, wording)
  | .unexpectedEof => (0, "unexpected end of file")
  | .userError wording => (0, wording)

/-- Whether a path leads to anything, be it readable or not. -/
def leadsSomewhere (path : String) : IO Bool := do
  try
    let _ ← IO.FS.realPath path
    return true
  catch _ => return false

/-- What stands at a path of the file system. -/
def entryAt (path : String) : IO Entry := do
  try
    return .file (← (← IO.FS.Handle.mk path .read).readBinToEnd)
  catch error =>
    let (number, wording) := refusal error
    match FileFault.ofRefusal number.toNat wording with
    | .isDirectory => return .directory
    | fault => return if ← leadsSomewhere path then .unreadable fault else .missing fault

/-- The text of a file, which is empty if it cannot be read. -/
def textAt (path : String) : IO String := do
  return match (← entryAt path).read with
    | .ok text => text
    | .error _ => ""

/-- The directory that a text names; the empty text names none. -/
def named (directory : String) : Option String := if directory = "" then none else some directory

/-- The real number of the user, in the status of a process. -/
def userNumber? (status : String) : Option String :=
  (status.splitOn "\n").findSome? fun line =>
    match line.splitOn "\t" with
    | "Uid:" :: number :: _ => some number
    | _ => none

/-- The home directory of a user in the database of users, which has a line for each of them. -/
def homeOf? (database number : String) : Option String :=
  (database.splitOn "\n").findSome? fun line =>
    match line.splitOn ":" with
    | _ :: _ :: other :: _ :: _ :: home :: _ => if other = number then named home else none
    | _ => none

/-- The home directory of the user: the one that the environment names, or else that of the
database of users. -/
def homeDirectory? : IO (Option String) := do
  match (← IO.getEnv "HOME").bind named with
  | some home => return some home
  | none =>
    let database ← textAt "/etc/passwd"
    return (userNumber? (← textAt "/proc/self/status")).bind (homeOf? database)

/-- The directory of the user's configuration files: the one that the environment names, if it is
given from the root, or else one in the home directory. -/
def configDirectory? : IO (Option String) := do
  match (← IO.getEnv "XDG_CONFIG_HOME").filter (·.startsWith "/") with
  | some directory => return some directory
  | none => return (← homeDirectory?).map (· ++ "/.config")

/-- What stands at the place of the user's configuration file. -/
def userConfigEntry : IO Entry := do
  match ← configDirectory? with
  | some directory => entryAt (directory ++ "/" ++ Config.userFileName)
  | none => return .missing .notFound

/-- Nothing is found anywhere. -/
def emptySurroundings : Surroundings :=
  ⟨fun _ => .missing .notFound, .missing .notFound, ByteArray.empty⟩

/-- The surroundings of a run with options. The standard input is read before the configuration,
whose path may lead to the same pipe, and the user's configuration file is looked at only if it is
needed. -/
def surroundingsOf (options : Options) : IO Surroundings := do
  let input ← if options.readsInput then (← IO.getStdin).readBinToEnd else pure ByteArray.empty
  let entries ← options.pathsRead.eraseDups.mapM fun path => return (path, ← entryAt path)
  let entry := fun path => (entries.lookup path).getD (.missing .notFound)
  let userConfig ←
    if options.version || options.config.isSome || (entry Config.localPath).isPresent then
      pure (.missing .notFound)
    else userConfigEntry
  return { entry, userConfig, input }

def main (arguments : List String) : IO UInt32 := do
  let surroundings ←
    match Options.parse arguments with
    | .run options => surroundingsOf options
    | _ => pure emptySurroundings
  let response := CommandLine.run surroundings arguments
  IO.print response.output
  IO.eprint response.errors
  return response.exit.toUInt32
