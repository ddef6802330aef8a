import ReleaseAnalysis.CommandLine
import ReleaseAnalysis.Proofs.Config.Loading
import ReleaseAnalysis.Proofs.FileTree.Paths

/-!
# What a run reads

A run looks at few things: the path of the commits or the standard input, the path of the
configuration, and the user's file if no path is given and there is no local file. In surroundings
that agree on these the program answers the same (`CommandLine.run_eq_of_sameReads`), so it is
enough to find out just these before a run.

In a file tree these are the places where the paths end. Two trees with the same directories that
agree there give the same configuration (`Config.load_eq_of_agree`) and the same response
(`CommandLine.run_eq_of_agree`), whatever their other files hold.
-/

set_option autoImplicit false

namespace ReleaseAnalysis

/-! ## In any surroundings -/

section AnySurroundings

variable {surroundings other : Surroundings}

/-- **A configuration depends on what its path leads to, and on the user's file if there is no path
and no local file.** -/
theorem Config.load_eq_of_sameReads {path : Option String}
    (entry : surroundings.entry (path.getD localPath) = other.entry (path.getD localPath))
    (userConfig : path = none → ¬ surroundings.HasLocal →
      surroundings.userConfig = other.userConfig) :
    load surroundings path = load other path := by
  cases path with
  | some path =>
    have found : surroundings.entry path = other.entry path := entry
    rw [load, load, found]
  | none =>
    have found : surroundings.entry localPath = other.entry localPath := entry
    by_cases present : surroundings.HasLocal
    · have otherPresent : other.HasLocal := by rwa [Surroundings.HasLocal, ← found]
      rw [load_of_local present, load_of_local otherPresent, found]
    · rw [load, load, found, userConfig rfl present]

/-- Both surroundings hold the same where a run with options reads. -/
structure Options.SameReads (options : Options) (surroundings other : Surroundings) : Prop where
  entry : ∀ path ∈ options.pathsRead, surroundings.entry path = other.entry path
  input : options.readsInput = true → surroundings.input = other.input
  userConfig : options.version = false → options.config = none → ¬ surroundings.HasLocal →
    surroundings.userConfig = other.userConfig

namespace Options.SameReads

variable {options : Options}

theorem loadConfig_eq (same : options.SameReads surroundings other)
    (unversioned : options.version = false) :
    Workflow.loadConfig surroundings options.config = Workflow.loadConfig other options.config := by
  have read : options.config.getD Config.localPath ∈ options.pathsRead := by
    simp only [pathsRead, unversioned, Bool.false_eq_true, if_false]
    split_ifs <;> simp
  rw [Workflow.loadConfig, Workflow.loadConfig,
    Config.load_eq_of_sameReads (same.entry _ read) (same.userConfig unversioned)]

theorem readCommits_eq (same : options.SameReads surroundings other)
    (unversioned : options.version = false) (unlisted : options.listTypes = false) :
    Workflow.readCommits surroundings options.commitsPath =
      Workflow.readCommits other options.commitsPath := by
  rw [Workflow.readCommits, Workflow.readCommits]
  by_cases piped : options.commitsPath = Workflow.inputPath
  · have input : surroundings.input = other.input := by
      apply same.input
      simp [readsInput, unversioned, unlisted, piped]
    rw [if_pos piped, if_pos piped, input]
  · have found : surroundings.entry options.commitsPath = other.entry options.commitsPath := by
      apply same.entry
      simp [pathsRead, unversioned, unlisted, piped]
    rw [if_neg piped, if_neg piped, found]

end Options.SameReads

/-- **The response of the program depends on what the run reads.** -/
theorem CommandLine.run_eq_of_sameReads {arguments : List String}
    (same : ∀ options, Options.parse arguments = .run options →
      options.SameReads surroundings other) :
    run surroundings arguments = run other arguments := by
  rw [run, run]
  cases asked : Options.parse arguments with
  | help => rfl
  | mistake => rfl
  | run options =>
    have reads := same options asked
    simp only [runWith]
    split_ifs with version listed
    · rfl
    · simp only [listTypes, reads.loadConfig_eq (Bool.eq_false_of_not_eq_true version)]
    · have unversioned := Bool.eq_false_of_not_eq_true version
      have unlisted := Bool.eq_false_of_not_eq_true listed
      simp only [analyze, reads.readCommits_eq unversioned unlisted,
        reads.loadConfig_eq unversioned]

end AnySurroundings

/-! ## In a file tree -/

section InTree

open FileTree

variable {tree other : FileTree} {working userFile : List String} {input : ByteArray}

/-- **A configuration depends on a tree at the place where its path ends, and at the place of the
user's file if there is no path.** -/
theorem Config.load_eq_of_agree (same : tree.SameDirectories other) {path : Option String}
    (agree : tree.entryAt (tree.endOf working (path.getD localPath)) =
      other.entryAt (tree.endOf working (path.getD localPath)))
    (agreeUser : path = none → tree.entryAt userFile = other.entryAt userFile) :
    load (tree.surroundings working userFile input) path =
      load (other.surroundings working userFile input) path := by
  apply load_eq_of_sameReads
  · exact same.entry_eq agree
  · intro unnamed _
    exact agreeUser unnamed

/-- Without a path the place is that of the local file in the working directory. -/
theorem Config.load_none_eq_of_agree (same : tree.SameDirectories other)
    (stands : tree.entryAt working = .directory)
    (agree : tree.entryAt (working ++ ["commitanalyzer.toml"]) =
      other.entryAt (working ++ ["commitanalyzer.toml"]))
    (agreeUser : tree.entryAt userFile = other.entryAt userFile) :
    load (tree.surroundings working userFile input) none =
      load (other.surroundings working userFile input) none := by
  apply load_eq_of_agree same
  · rwa [Option.getD_none, endOf_localPath stands]
  · intro _
    exact agreeUser

/-- **The response of the program depends on a tree at the places where the paths of the run end,
and at the place of the user's file.** -/
theorem CommandLine.run_eq_of_agree (same : tree.SameDirectories other) {arguments : List String}
    (agree : ∀ options, Options.parse arguments = .run options → ∀ path ∈ options.pathsRead,
      tree.entryAt (tree.endOf working path) = other.entryAt (tree.endOf working path))
    (agreeUser : tree.entryAt userFile = other.entryAt userFile) :
    run (tree.surroundings working userFile input) arguments =
      run (other.surroundings working userFile input) arguments := by
  apply run_eq_of_sameReads
  intro options asked
  refine ⟨?_, fun _ => rfl, fun _ _ _ => agreeUser⟩
  intro path read
  exact same.entry_eq (agree options asked path read)

end InTree

end ReleaseAnalysis
