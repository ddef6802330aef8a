import ReleaseAnalysis.FileTree
import Mathlib.Logic.Basic
import Mathlib.Tactic.SplitIfs

/-!
# Where paths end

A path is followed through directories until its names are used up or something is in the way. Where
that happens (`FileTree.walk`) is decided by the directories of the tree alone, and what the path
leads to is decided by what stands there and by the names that are left (`FileTree.follow_eq`).

So nothing that stands elsewhere has an influence: in two trees with the same directories a path
leads to the same thing if the trees agree at the place where it ends (`SameDirectories.entry_eq`).
Trees that differ in nothing but what their files hold have the same directories.
-/

set_option autoImplicit false

namespace ReleaseAnalysis

namespace FileTree

variable {tree other : FileTree} {working : List String}

/-! ## Where a path ends -/

/-- Where a walk along names ends, with the names that are left: none, unless something that cannot
be gone through or a name that is too long is in the way. -/
def walk (tree : FileTree) (place : List String) : List String → List String × List String
  | [] => (place, [])
  | name :: rest =>
    match tree.entryAt place with
    | .directory =>
      if name = "" ∨ name = "." then tree.walk place rest
      else if name = ".." then tree.walk place.dropLast rest
      else if longestName < name.utf8ByteSize then (place, name :: rest)
      else tree.walk (place ++ [name]) rest
    | _ => (place, name :: rest)

/-- What a walk leads to that ends at an entry with names left. -/
def arrival : Entry → List String → Entry
  | entry, [] => entry
  | .missing fault, _ :: _ => .missing fault
  | .directory, _ :: _ => .missing .nameTooLong
  | .file _, _ :: _ => .missing .notDirectory
  | .unreadable _, _ :: _ => .missing .notDirectory

/-- **What names lead to is decided where the walk ends.** -/
theorem follow_eq (place names : List String) :
    tree.follow place names =
      arrival (tree.entryAt (tree.walk place names).1) (tree.walk place names).2 := by
  induction names generalizing place with
  | nil => rfl
  | cons name rest ih =>
    rw [follow, walk]
    cases found : tree.entryAt place with
    | directory =>
      dsimp only
      split_ifs with stays back long
      · exact ih place
      · exact ih place.dropLast
      · simp only [found, arrival]
      · exact ih (place ++ [name])
    | file content => simp only [found, arrival]
    | unreadable fault => simp only [found, arrival]
    | missing fault => simp only [found, arrival]

/-- Both trees have the same directories, whatever else is in them. -/
def SameDirectories (tree other : FileTree) : Prop :=
  ∀ place, tree.entryAt place = .directory ↔ other.entryAt place = .directory

/-- A walk ends before a name where no directory stands. -/
theorem walk_cons_of_ne {place : List String} (blocked : tree.entryAt place ≠ .directory)
    (name : String) (rest : List String) :
    tree.walk place (name :: rest) = (place, name :: rest) := by
  rw [walk]
  split
  · contradiction
  · rfl

/-- **A walk depends on the directories alone.** -/
theorem SameDirectories.walk_eq (same : tree.SameDirectories other) (place names : List String) :
    tree.walk place names = other.walk place names := by
  induction names generalizing place with
  | nil => rfl
  | cons name rest ih =>
    by_cases here : tree.entryAt place = .directory
    · simp only [walk, here, (same place).mp here, ih]
    · have there : other.entryAt place ≠ .directory := mt (same place).mpr here
      rw [walk_cons_of_ne here, walk_cons_of_ne there]

/-- The place where a path ends. -/
def endOf (tree : FileTree) (working : List String) (path : String) : List String :=
  (tree.walk (start working path) (names path)).1

/-- **A path leads to the same in two trees with the same directories that agree where it ends.** -/
theorem SameDirectories.entry_eq (same : tree.SameDirectories other) {path : String}
    (agree : tree.entryAt (tree.endOf working path) = other.entryAt (tree.endOf working path)) :
    tree.entry working path = other.entry working path := by
  have followed : tree.follow (start working path) (names path) =
      other.follow (start working path) (names path) := by
    rw [endOf] at agree
    rw [follow_eq, follow_eq, ← same.walk_eq, agree]
  simp only [entry, followed]

/-- The path of the local configuration file ends at the file of that name in the working directory,
if there is such a directory. -/
theorem endOf_localPath (found : tree.entryAt working = .directory) :
    tree.endOf working Config.localPath = working ++ ["commitanalyzer.toml"] := by
  have spelled : names Config.localPath = [".", "commitanalyzer.toml"] := by decide +kernel
  have relative : Config.localPath.startsWith "/" = false := by decide +kernel
  have short : ¬ longestName < "commitanalyzer.toml".utf8ByteSize := by decide
  simp [endOf, start, spelled, relative, walk, found, short]

/-! ## Trees that differ in what their files hold -/

/-- The places of a tree, with the information whether a directory stands there. -/
def outline (tree : FileTree) : List (List String × Bool) :=
  tree.nodes.map fun node => (node.1, node.2.isDirectory)

theorem lookup_outline (place : List String) :
    tree.outline.lookup place = (tree.nodes.lookup place).map FileNode.isDirectory := by
  rw [outline]
  induction tree.nodes with
  | nil => rfl
  | cons node rest ih =>
    rw [List.map_cons, List.lookup_cons, List.lookup_cons, ih]
    cases place == node.1 <;> rfl

/-- A directory stands where one is put and where one is passed on the way to something else. -/
theorem entryAt_eq_directory_iff (place : List String) :
    tree.entryAt place = .directory ↔
      tree.outline.lookup place = some true ∨
        tree.outline.lookup place = none ∧
          (place.isEmpty ∨ tree.outline.any fun node => place.isPrefixOf node.1) := by
  rw [lookup_outline, entryAt]
  cases tree.nodes.lookup place with
  | none => simp [outline, or_iff_not_imp_left]
  | some node => cases node <;> simp [FileNode.isDirectory]

/-- Trees that differ in nothing but what their files hold have the same directories. -/
theorem sameDirectories_of_outline_eq (same : tree.outline = other.outline) :
    tree.SameDirectories other := by
  intro place
  rw [entryAt_eq_directory_iff, entryAt_eq_directory_iff, same]

end FileTree

end ReleaseAnalysis
