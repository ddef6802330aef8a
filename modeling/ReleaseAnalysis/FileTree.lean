import ReleaseAnalysis.Surroundings

/-!
# File trees

A file tree is a picture of a file system: the places of its files and directories, each as the
list of names that leads there from the root. A directory exists also when it is only passed on the
way to something else. Paths are followed name by name from the root or from a working directory.
A name has at most 255 bytes and a path fewer than 4096. A file may be one that the system does not
let be read; a directory can always be gone through.
-/

set_option autoImplicit false

namespace ReleaseAnalysis

/-- A file with its content, a file that cannot be read, or a directory. -/
inductive FileNode
  | file (content : ByteArray)
  | unreadable (fault : FileFault)
  | directory

/-- Whether a node is a directory. -/
def FileNode.isDirectory : FileNode → Bool
  | .directory => true
  | _ => false

/-- The files and directories by the names that lead to them. -/
structure FileTree where
  nodes : List (List String × FileNode)

namespace FileTree

/-- What stands at a place. -/
def entryAt (tree : FileTree) (place : List String) : Entry :=
  match tree.nodes.lookup place with
  | some (.file content) => .file content
  | some (.unreadable fault) => .unreadable fault
  | some .directory => .directory
  | none =>
    if place.isEmpty || tree.nodes.any fun node => place.isPrefixOf node.1 then .directory
    else .missing .notFound

/-- The most bytes of a name. -/
def longestName : Nat := 255

/-- The number of bytes that a path must stay below. -/
def pathLimit : Nat := 4096

/-- Follows names from a place. Only a directory can be gone through; the empty name and the dot
stay, two dots go back. -/
def follow (tree : FileTree) (place : List String) : List String → Entry
  | [] => tree.entryAt place
  | name :: rest =>
    match tree.entryAt place with
    | .file _ | .unreadable _ => .missing .notDirectory
    | .missing fault => .missing fault
    | .directory =>
      if name = "" ∨ name = "." then tree.follow place rest
      else if name = ".." then tree.follow place.dropLast rest
      else if longestName < name.utf8ByteSize then .missing .nameTooLong
      else tree.follow (place ++ [name]) rest

/-- The names that a path is made of. -/
def names (path : String) : List String := (path.toList.splitOn '/').map String.ofList

/-- Where a path starts: at the root, or in the working directory. -/
def start (working : List String) (path : String) : List String :=
  if path.startsWith "/" then [] else working

/-- What a path leads to from a working directory. -/
def entry (tree : FileTree) (working : List String) (path : String) : Entry :=
  if path.contains '\x00' then .missing .zeroInPath
  else if path = "" then .missing .notFound
  else if pathLimit ≤ path.utf8ByteSize then .missing .nameTooLong
  else tree.follow (start working path) (names path)

/-- What a run sees that works in a directory of a tree: what its paths lead to, and what stands at
the place of the user's configuration file. -/
def surroundings (tree : FileTree) (working userFile : List String) (input : ByteArray) :
    Surroundings where
  entry := tree.entry working
  userConfig := tree.entryAt userFile
  input := input

end FileTree

end ReleaseAnalysis
