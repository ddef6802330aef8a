import ReleaseAnalysis.Analysis
import ReleaseAnalysis.Proofs.Resolution.Highest

/-!
# What an analysis yields

For one commit the custom rules decide as soon as one of them matches, and the built-in rules
otherwise (`analyzeCommit_of_matched`, `analyzeCommit_of_unmatched`). For a list of commits the
results of the single commits are findings, and the analysis concludes from them
(`outcome_analyze`): the first commit that fails or reaches the highest release type decides, and
where there is none the highest release of all commits is the result
(`exists_outcome_of_not_decides`). Commits behind the decisive one leave no trace in the result or
in the events (`outcome_of_firstDecisive`, `events_of_firstDecisive`).
-/

set_option autoImplicit false

namespace ReleaseAnalysis
namespace Analyzer

variable {analyzer : Analyzer} {commit : Commit} {cause : AnalysisError}
  {best release : Option String} {resolution : Resolution} {rest commits : List Commit}

/-! ## One commit -/

/-- A commit on which the custom rules fail fails. -/
theorem analyzeCommit_of_error
    (failed : (analyzer.ranking.resolve analyzer.rules commit).outcome = .error cause) :
    analyzer.analyzeCommit commit =
      ⟨(analyzer.ranking.resolve analyzer.rules commit).entries, .error cause⟩ := by
  simp only [analyzeCommit, failed]

/-- Custom rules of which one matches decide. -/
theorem analyzeCommit_of_matched
    (done : (analyzer.ranking.resolve analyzer.rules commit).outcome = .ok resolution)
    (hit : 0 < resolution.matched) :
    analyzer.analyzeCommit commit =
      ⟨(analyzer.ranking.resolve analyzer.rules commit).entries, .ok resolution.release⟩ := by
  simp only [analyzeCommit, done, hit, ↓reduceIte]

/-- The built-in rules decide where no custom rule matches. -/
theorem analyzeCommit_of_unmatched
    (done : (analyzer.ranking.resolve analyzer.rules commit).outcome = .ok resolution)
    (unmatched : resolution.matched = 0) :
    analyzer.analyzeCommit commit =
      ((analyzer.ranking.resolve Rule.defaults commit).map Resolution.release).after
        (analyzer.ranking.resolve analyzer.rules commit).entries := by
  simp only [analyzeCommit, done, unmatched, Nat.lt_irrefl, ↓reduceIte]

/-- What a commit contributes to an analysis: its own result. -/
def finding (analyzer : Analyzer) (commit : Commit) : Finding :=
  (analyzer.analyzeCommit commit).outcome

/-- Whether a commit decides an analysis: it fails or reaches the highest release type. -/
def decides (analyzer : Analyzer) (commit : Commit) : Bool :=
  analyzer.ranking.decides (analyzer.finding commit)

/-- A commit decides when its own result is an error or the highest release type. -/
theorem decides_iff :
    analyzer.decides commit = true ↔
      (∃ cause, (analyzer.analyzeCommit commit).outcome = .error cause) ∨
        (analyzer.analyzeCommit commit).outcome = .ok (some analyzer.ranking.highest) := by
  unfold decides finding
  cases (analyzer.analyzeCommit commit).outcome with
  | error cause => simp
  | ok release => simp

/-- The release of a commit is recognized. -/
theorem recognizes_of_analyzeCommit
    (found : (analyzer.analyzeCommit commit).outcome = .ok release) :
    analyzer.ranking.Recognizes release := by
  cases custom : (analyzer.ranking.resolve analyzer.rules commit).outcome with
  | error cause =>
    rw [analyzeCommit_of_error custom] at found
    cases found
  | ok resolution =>
    rcases Nat.eq_zero_or_pos resolution.matched with unmatched | hit
    · rw [analyzeCommit_of_unmatched custom unmatched, Recorded.outcome_after] at found
      cases builtin : (analyzer.ranking.resolve Rule.defaults commit).outcome with
      | error cause =>
        rw [Recorded.map, builtin] at found
        cases found
      | ok resolution =>
        rw [Recorded.map, builtin] at found
        cases found
        exact Ranking.recognizes_of_resolve builtin
    · rw [analyzeCommit_of_matched custom hit] at found
      cases found
      exact Ranking.recognizes_of_resolve custom

/-! ## One step of an analysis -/

/-- The log of a commit: its summary, its events and, unless it fails, its release. -/
def commitRecords (analyzer : Analyzer) (commit : Commit) : List LogEntry :=
  commitLog commit (analyzer.analyzeCommit commit).entries ++
    match analyzer.finding commit with
    | .ok release => [.commitFinished release]
    | .error _ => []

/-- The log entry with which a decisive commit stops an analysis, unless it fails. -/
def stopRecords (analyzer : Analyzer) (commit : Commit) : List LogEntry :=
  match analyzer.finding commit with
  | .ok _ => [.highestReached]
  | .error _ => []

/-- An analysis ends at a decisive commit. -/
theorem analyzeFrom_of_decides (pending : analyzer.ranking.Pending best)
    (decisive : analyzer.decides commit = true) :
    analyzer.analyzeFrom best (commit :: rest) =
      ⟨analyzer.commitRecords commit ++ analyzer.stopRecords commit, analyzer.finding commit⟩ := by
  cases found : (analyzer.analyzeCommit commit).outcome with
  | error cause => simp [analyzeFrom, commitRecords, stopRecords, finding, found]
  | ok release =>
    have reached : release = some analyzer.ranking.highest := by
      rw [decides, finding, found] at decisive
      exact Ranking.decides_ok.mp decisive
    subst reached
    have raises := Ranking.severity_lt_highest pending.recognizes pending.not_highest
    have compared := Ranking.outranks_of_recognizes pending.recognizes
      (recognizes_of_analyzeCommit found)
    simp [analyzeFrom, commitRecords, stopRecords, finding, found, compared, raises]

/-- An analysis goes on from any other commit. -/
theorem analyzeFrom_of_not_decides (pending : analyzer.ranking.Pending best)
    (found : (analyzer.analyzeCommit commit).outcome = .ok release)
    (other : release ≠ some analyzer.ranking.highest) :
    analyzer.analyzeFrom best (commit :: rest) =
      (analyzer.analyzeFrom (analyzer.ranking.higher best release) rest).after
        (analyzer.commitRecords commit) := by
  have recognizes := recognizes_of_analyzeCommit found
  have compared := Ranking.outranks_of_recognizes pending.recognizes recognizes
  have next : analyzer.ranking.higher best release ≠ some analyzer.ranking.highest :=
    (pending.higher ⟨recognizes, other⟩).not_highest
  unfold Ranking.higher at next ⊢
  simp [analyzeFrom, commitRecords, finding, found, compared, next]

/-! ## The whole analysis -/

/-- An analysis from a pending release concludes from the results of the commits. -/
theorem outcome_analyzeFrom (pending : analyzer.ranking.Pending best) (commits : List Commit) :
    (analyzer.analyzeFrom best commits).outcome =
      analyzer.ranking.conclude best (commits.map analyzer.finding) := by
  induction commits generalizing best with
  | nil => rfl
  | cons commit rest ih =>
    rw [List.map_cons]
    cases decisive : analyzer.decides commit with
    | true =>
      rw [analyzeFrom_of_decides pending decisive, Ranking.conclude_of_decides decisive]
    | false =>
      obtain ⟨release, found, other⟩ := Ranking.decides_eq_false_iff.mp decisive
      have next := pending.higher ⟨recognizes_of_analyzeCommit found, other⟩
      rw [analyzeFrom_of_not_decides pending found other, Recorded.outcome_after, ih next, found,
        Ranking.conclude_of_not_decides other]

/-- **An analysis concludes from the results of its commits.** -/
theorem outcome_analyze (analyzer : Analyzer) (commits : List Commit) :
    (analyzer.analyze commits).outcome =
      analyzer.ranking.conclude none (commits.map analyzer.finding) := by
  rw [← outcome_analyzeFrom Ranking.pending_none]
  unfold analyze
  cases ended : (analyzer.analyzeFrom none commits).outcome with
  | error cause => simp only [ended]
  | ok release => simp only [ended]

/-- Commits behind a decisive one are not looked at. -/
theorem analyzeFrom_append_cons (pending : analyzer.ranking.Pending best)
    (decisive : analyzer.decides commit = true) (earlier later : List Commit) :
    analyzer.analyzeFrom best (earlier ++ commit :: later) =
      analyzer.analyzeFrom best (earlier ++ [commit]) := by
  induction earlier generalizing best with
  | nil =>
    rw [List.nil_append, List.nil_append, analyzeFrom_of_decides pending decisive,
      analyzeFrom_of_decides pending decisive]
  | cons first rest ih =>
    rw [List.cons_append, List.cons_append]
    cases ends : analyzer.decides first with
    | true => rw [analyzeFrom_of_decides pending ends, analyzeFrom_of_decides pending ends]
    | false =>
      obtain ⟨release, found, other⟩ := Ranking.decides_eq_false_iff.mp ends
      have next := pending.higher ⟨recognizes_of_analyzeCommit found, other⟩
      rw [analyzeFrom_of_not_decides pending found other,
        analyzeFrom_of_not_decides pending found other, ih next]

/-- The events of an analysis: those of resolving the rules, in the order of the commits. -/
def events (analyzer : Analyzer) (commits : List Commit) : List Event :=
  (analyzer.analyze commits).entries.filterMap LogEntry.event?

/-- The closing entry of an analysis reports no event. -/
theorem events_eq (analyzer : Analyzer) (commits : List Commit) :
    analyzer.events commits =
      (analyzer.analyzeFrom none commits).entries.filterMap LogEntry.event? := by
  unfold events analyze
  cases ended : (analyzer.analyzeFrom none commits).outcome with
  | error cause => simp only [ended]
  | ok release => simp [ended, LogEntry.event?]

/-- The commit at a place decides, and no commit before it does. -/
def FirstDecisive (analyzer : Analyzer) (commits : List Commit) (place : Nat) (commit : Commit) :
    Prop :=
  commits[place]? = some commit ∧ analyzer.decides commit = true ∧
    ∀ earlier < place, ∀ other, commits[earlier]? = some other → analyzer.decides other = false

/-- An analysis that fails does so at its first decisive commit. -/
theorem exists_firstDecisive_of_error (failed : (analyzer.analyze commits).outcome = .error cause) :
    ∃ place commit, analyzer.FirstDecisive commits place commit ∧
      (analyzer.analyzeCommit commit).outcome = .error cause := by
  rw [outcome_analyze] at failed
  obtain ⟨place, commit, listed, found, before⟩ := Ranking.conclude_map_eq_error_iff.mp failed
  exact ⟨place, commit, ⟨listed, decides_iff.mpr (.inl ⟨cause, found⟩), before⟩, found⟩

/-- Up to the first decisive commit a list ends with it, and no other commit there decides. -/
theorem FirstDecisive.take_succ {place : Nat}
    (first : analyzer.FirstDecisive commits place commit) :
    commits.take (place + 1) = commits.take place ++ [commit] ∧
      ∀ other ∈ commits.take place, analyzer.decides other = false := by
  obtain ⟨listed, _, before⟩ := first
  refine ⟨by simp [List.take_add_one, listed], ?_⟩
  intro other member
  obtain ⟨earlier, found⟩ := List.mem_iff_getElem?.mp member
  rw [List.getElem?_take] at found
  split at found
  · exact before earlier ‹_› other found
  · cases found

/-- An analysis yields what its first decisive commit yields. -/
theorem outcome_of_firstDecisive {place : Nat}
    (first : analyzer.FirstDecisive commits place commit) (others : List Commit) :
    (analyzer.analyze (commits.take (place + 1) ++ others)).outcome =
      (analyzer.analyzeCommit commit).outcome := by
  obtain ⟨split, undecided⟩ := first.take_succ
  rw [outcome_analyze, split, List.append_assoc, List.singleton_append, List.map_append,
    List.map_cons]
  refine Ranking.conclude_append_cons ?_ first.2.1 _
  intro finding member
  obtain ⟨other, listed, rfl⟩ := List.mem_map.mp member
  exact undecided other listed

/-- The events of an analysis are those up to its first decisive commit. -/
theorem events_of_firstDecisive {place : Nat}
    (first : analyzer.FirstDecisive commits place commit) (others : List Commit) :
    analyzer.events (commits.take (place + 1) ++ others) =
      analyzer.events (commits.take (place + 1)) := by
  rw [events_eq, events_eq, first.take_succ.1, List.append_assoc, List.singleton_append,
    analyzeFrom_append_cons Ranking.pending_none first.2.1]

theorem recognizes_of_mem_findings (member : .ok release ∈ commits.map analyzer.finding) :
    analyzer.ranking.Recognizes release := by
  obtain ⟨commit, _, found⟩ := List.mem_map.mp member
  exact recognizes_of_analyzeCommit found

/-- The release that an analysis yields is recognized. -/
theorem recognizes_of_analyze (done : (analyzer.analyze commits).outcome = .ok best) :
    analyzer.ranking.Recognizes best := by
  rw [outcome_analyze] at done
  exact Ranking.recognizes_of_conclude (fun _ => recognizes_of_mem_findings) done

/-- The release type that an analysis yields is triggered by one of the commits alone. -/
theorem exists_commit_of_analyze {id : String}
    (done : (analyzer.analyze commits).outcome = .ok (some id)) :
    ∃ commit ∈ commits, (analyzer.analyzeCommit commit).outcome = .ok (some id) := by
  rw [outcome_analyze] at done
  rcases Ranking.mem_of_conclude_eq_ok done with absent | member
  · cases absent
  · obtain ⟨commit, listed, found⟩ := List.mem_map.mp member
    exact ⟨commit, listed, found⟩

/-- No commit alone triggers a more severe release than an analysis yields. -/
theorem severity_le_of_analyze (done : (analyzer.analyze commits).outcome = .ok best)
    (listed : commit ∈ commits) (found : (analyzer.analyzeCommit commit).outcome = .ok release) :
    analyzer.ranking.severity release ≤ analyzer.ranking.severity best := by
  rw [outcome_analyze] at done
  exact Ranking.severity_le_of_conclude_eq_ok done (List.mem_map.mpr ⟨commit, listed, found⟩)

/-- An analysis of commits of which none decides yields the most severe of their releases. -/
theorem exists_outcome_of_not_decides
    (undecided : ∀ commit ∈ commits, analyzer.decides commit = false) :
    ∃ best, (analyzer.analyze commits).outcome = .ok best ∧
      (∀ commit ∈ commits, ∃ release, (analyzer.analyzeCommit commit).outcome = .ok release ∧
        analyzer.ranking.severity release ≤ analyzer.ranking.severity best) ∧
      (∀ id, best = some id → id ∈ analyzer.ranking.ids ∧
        ∃ commit ∈ commits, (analyzer.analyzeCommit commit).outcome = .ok (some id)) ∧
      (best = none ↔
        ∀ commit ∈ commits, (analyzer.analyzeCommit commit).outcome = .ok none) := by
  have passed : ∀ finding ∈ commits.map analyzer.finding,
      analyzer.ranking.decides finding = false := by
    intro finding member
    obtain ⟨commit, listed, rfl⟩ := List.mem_map.mp member
    exact undecided commit listed
  obtain ⟨best, done⟩ : ∃ best, (analyzer.analyze commits).outcome = .ok best :=
    ⟨_, (outcome_analyze analyzer commits).trans (Ranking.conclude_eq_highestOf passed)⟩
  have each : ∀ commit ∈ commits, ∃ release,
      (analyzer.analyzeCommit commit).outcome = .ok release ∧
        analyzer.ranking.severity release ≤ analyzer.ranking.severity best := by
    intro commit listed
    obtain ⟨release, found, _⟩ := Ranking.decides_eq_false_iff.mp (undecided commit listed)
    exact ⟨release, found, severity_le_of_analyze done listed found⟩
  refine ⟨best, done, each, ?_, ?_⟩
  · rintro id rfl
    exact ⟨Ranking.recognizes_some.mp (recognizes_of_analyze done), exists_commit_of_analyze done⟩
  · constructor
    · rintro rfl commit listed
      obtain ⟨release, found, bound⟩ := each commit listed
      have same := (Ranking.severity_eq_zero_iff (recognizes_of_analyzeCommit found)).mp
        (Nat.le_zero.mp bound)
      exact same ▸ found
    · intro silent
      cases best with
      | none => rfl
      | some id =>
        obtain ⟨commit, listed, found⟩ := exists_commit_of_analyze done
        cases (silent commit listed).symm.trans found

/-- **The first commit that fails or reaches the highest release type decides an analysis**, and
the commits behind it leave no trace in the result or in the events. Where there is no such commit
the analysis yields the most severe of the releases of the single commits, and none exactly when
none of them triggers a release. -/
theorem analyze_first_decisive (analyzer : Analyzer) (commits : List Commit) :
    (∀ place commit, analyzer.FirstDecisive commits place commit →
        (analyzer.analyze commits).outcome = (analyzer.analyzeCommit commit).outcome ∧
        ∀ others,
          (analyzer.analyze (commits.take (place + 1) ++ others)).outcome =
            (analyzer.analyze commits).outcome ∧
          analyzer.events (commits.take (place + 1) ++ others) = analyzer.events commits) ∧
      ((∀ commit ∈ commits, analyzer.decides commit = false) →
        ∃ best, (analyzer.analyze commits).outcome = .ok best ∧
          (∀ commit ∈ commits, ∃ release,
            (analyzer.analyzeCommit commit).outcome = .ok release ∧
              analyzer.ranking.severity release ≤ analyzer.ranking.severity best) ∧
          (∀ id, best = some id → id ∈ analyzer.ranking.ids ∧
            ∃ commit ∈ commits, (analyzer.analyzeCommit commit).outcome = .ok (some id)) ∧
          (best = none ↔
            ∀ commit ∈ commits, (analyzer.analyzeCommit commit).outcome = .ok none)) := by
  refine ⟨?_, exists_outcome_of_not_decides⟩
  intro place commit first
  have whole : commits.take (place + 1) ++ commits.drop (place + 1) = commits :=
    List.take_append_drop (place + 1) commits
  have yielded := outcome_of_firstDecisive first (commits.drop (place + 1))
  have recorded := events_of_firstDecisive first (commits.drop (place + 1))
  rw [whole] at yielded recorded
  refine ⟨yielded, fun others => ⟨?_, ?_⟩⟩
  · rw [outcome_of_firstDecisive first, yielded]
  · rw [events_of_firstDecisive first, recorded]

end Analyzer
end ReleaseAnalysis
