import Mathlib.Data.List.Basic
import ReleaseAnalysis.Ranking

/-!
# How severe a release is

A ranking recognizes no release at all and every release type that it lists. The severity of a
recognized release is a number: zero for no release, and for a release type the number of places
from its own to the end of the ranking. Comparing releases is comparing these numbers, so the
order of the ranking is the order of the natural numbers: `outranks_of_recognizes` says it of the
comparison that the analysis runs, `outranks_eq_ok_iff` that this has no answer for any other
releases, and `severity_injective` that different recognized releases have different severities.

The more severe of two releases is `higher`, and the most severe of a list is `highestOf`: one of
the releases it was taken from (`highestOf_mem`), and none of them is more severe
(`severity_le_highestOf`).
-/

set_option autoImplicit false

namespace ReleaseAnalysis
namespace Ranking

variable {ranking : Ranking}

/-! ## Recognized releases -/

/-- No release is recognized, and of the release types those that the ranking lists. -/
def Recognizes (ranking : Ranking) (release : Option String) : Prop :=
  ∀ id, release = some id → id ∈ ranking.ids

theorem recognizes_none : ranking.Recognizes none := by
  intro id same
  cases same

@[simp] theorem recognizes_some {id : String} : ranking.Recognizes (some id) ↔ id ∈ ranking.ids :=
  ⟨fun recognizes => recognizes id rfl, fun member _ same => Option.some.inj same ▸ member⟩

/-- The most severe release type is one of the ranking. -/
theorem highest_mem (ranking : Ranking) : ranking.highest ∈ ranking.ids :=
  List.head_mem ranking.ids_ne_nil

/-- The check of a release passes exactly the recognized ones. -/
theorem check_eq_ok_iff {release : Option String} :
    ranking.check release = .ok () ↔ ranking.Recognizes release := by
  cases release with
  | none => simp [check, recognizes_none]
  | some id => by_cases member : id ∈ ranking.ids <;> simp [check, contains, member]

/-- An unrecognized release type fails the check under its own name. -/
theorem check_of_not_mem {id : String} (unknown : id ∉ ranking.ids) :
    ranking.check (some id) = .error (.unknownReleaseType id) := by
  simp [check, contains, unknown]

/-! ## Severity -/

/-- How severe a release is: nothing for no release, and for a release type the number of places
from its own to the end of the ranking. -/
def severity (ranking : Ranking) : Option String → Nat
  | none => 0
  | some id => ranking.ids.length - ranking.ids.idxOf id

@[simp] theorem severity_none : ranking.severity none = 0 := rfl

theorem severity_some_pos {id : String} (member : id ∈ ranking.ids) :
    0 < ranking.severity (some id) := by
  have place := List.idxOf_lt_length_of_mem member
  simp only [severity]
  omega

/-- The most severe release type is as severe as the ranking is long. -/
theorem severity_highest (ranking : Ranking) :
    ranking.severity (some ranking.highest) = ranking.ids.length := by
  have first : ranking.ids.idxOf ranking.highest = 0 :=
    (List.idxOf_eq_zero_iff_head_eq ranking.ids_ne_nil).mpr rfl
  simp [severity, first]

theorem severity_le_highest (ranking : Ranking) (release : Option String) :
    ranking.severity release ≤ ranking.severity (some ranking.highest) := by
  rw [severity_highest]
  cases release with
  | none => exact Nat.zero_le _
  | some id => exact Nat.sub_le _ _

/-- Different recognized releases differ in severity. -/
theorem severity_injective {left right : Option String} (known : ranking.Recognizes left)
    (known' : ranking.Recognizes right)
    (same : ranking.severity left = ranking.severity right) : left = right := by
  cases left with
  | none =>
    cases right with
    | none => rfl
    | some id =>
      have positive := severity_some_pos (recognizes_some.mp known')
      rw [severity_none] at same
      omega
  | some id =>
    have member := recognizes_some.mp known
    have positive := severity_some_pos member
    cases right with
    | none =>
      rw [severity_none] at same
      omega
    | some other =>
      have place : ranking.ids.idxOf id = ranking.ids.idxOf other := by
        simp only [severity] at same positive
        omega
      exact congrArg some ((List.idxOf_inj member).mp place)

/-- A recognized release is none exactly when it has no severity. -/
theorem severity_eq_zero_iff {release : Option String} (known : ranking.Recognizes release) :
    ranking.severity release = 0 ↔ release = none :=
  ⟨fun zero => severity_injective known recognizes_none zero, fun same => same ▸ rfl⟩

/-- Whatever is not the highest release type is less severe than it. -/
theorem severity_lt_highest {release : Option String} (known : ranking.Recognizes release)
    (other : release ≠ some ranking.highest) :
    ranking.severity release < ranking.severity (some ranking.highest) := by
  refine Nat.lt_of_le_of_ne (ranking.severity_le_highest release) fun same => other ?_
  exact severity_injective known (recognizes_some.mpr ranking.highest_mem) same

/-! ## Comparing releases -/

theorem rank_of_recognizes {release : Option String} (known : ranking.Recognizes release) :
    ranking.rank release = .ok (release.map ranking.ids.idxOf) := by
  cases release with
  | none => rfl
  | some id =>
    have member := recognizes_some.mp known
    have place : ranking.ids.idxOf? id = some (ranking.ids.idxOf id) := by
      refine List.idxOf?_eq_some_iff.mpr ⟨List.idxOf_lt_length_of_mem member, ?_, ?_⟩
      · exact List.getElem_idxOf (List.idxOf_lt_length_of_mem member)
      · intro earlier before same
        have missed := List.not_of_lt_findIdx before
        simp [same] at missed
    simp [rank, position?, place]

theorem rank_of_not_mem {id : String} (unknown : id ∉ ranking.ids) :
    ranking.rank (some id) = .error (.unknownReleaseType id) := by
  simp [rank, position?, List.idxOf?_eq_none_iff.mpr unknown]

/-- **A recognized candidate outranks a recognized release exactly when it is more severe.** -/
theorem outranks_of_recognizes {current candidate : Option String}
    (known : ranking.Recognizes current) (known' : ranking.Recognizes candidate) :
    ranking.outranks current candidate =
      .ok (decide (ranking.severity current < ranking.severity candidate)) := by
  unfold outranks
  rw [rank_of_recognizes known, rank_of_recognizes known']
  cases candidate with
  | none => cases current <;> rfl
  | some id =>
    have positive := severity_some_pos (recognizes_some.mp known')
    cases current with
    | none => simp [bind, Except.bind, pure, Except.pure, positive]
    | some other =>
      have place := List.idxOf_lt_length_of_mem (recognizes_some.mp known)
      have place' := List.idxOf_lt_length_of_mem (recognizes_some.mp known')
      have same : ranking.ids.idxOf id < ranking.ids.idxOf other ↔
          ranking.severity (some other) < ranking.severity (some id) := by
        simp only [severity]
        omega
      simp [bind, Except.bind, pure, Except.pure, same]

/-- Against a recognized release an unrecognized candidate is an error that names it. -/
theorem outranks_of_not_mem {current : Option String} {id : String}
    (known : ranking.Recognizes current) (unknown : id ∉ ranking.ids) :
    ranking.outranks current (some id) = .error (.unknownReleaseType id) := by
  unfold outranks
  rw [rank_of_recognizes known, rank_of_not_mem unknown]
  rfl

/-- An unrecognized current release is an error that names it, whatever the candidate. -/
theorem outranks_of_current_not_mem {id : String} {candidate : Option String}
    (unknown : id ∉ ranking.ids) :
    ranking.outranks (some id) candidate = .error (.unknownReleaseType id) := by
  unfold outranks
  rw [rank_of_not_mem unknown]
  rfl

/-- A comparison has an answer exactly between recognized releases, and then it is the one of the
severities. -/
theorem outranks_eq_ok_iff {current candidate : Option String} {answer : Bool} :
    ranking.outranks current candidate = .ok answer ↔
      ranking.Recognizes current ∧ ranking.Recognizes candidate ∧
        decide (ranking.severity current < ranking.severity candidate) = answer := by
  constructor
  · intro compared
    have known : ranking.Recognizes current := by
      rintro id rfl
      by_contra unknown
      rw [outranks_of_current_not_mem unknown] at compared
      cases compared
    have known' : ranking.Recognizes candidate := by
      rintro id rfl
      by_contra unknown
      rw [outranks_of_not_mem known unknown] at compared
      cases compared
    rw [outranks_of_recognizes known known', Except.ok.injEq] at compared
    exact ⟨known, known', compared⟩
  · rintro ⟨known, known', rfl⟩
    exact outranks_of_recognizes known known'

/-- A candidate outranks a release when both are recognized and it is the more severe. -/
theorem outranks_eq_true_iff {current candidate : Option String} :
    ranking.outranks current candidate = .ok true ↔
      ranking.Recognizes current ∧ ranking.Recognizes candidate ∧
        ranking.severity current < ranking.severity candidate := by
  rw [outranks_eq_ok_iff, decide_eq_true_iff]

/-- A candidate does not outrank a release when both are recognized and it is no more severe. -/
theorem outranks_eq_false_iff {current candidate : Option String} :
    ranking.outranks current candidate = .ok false ↔
      ranking.Recognizes current ∧ ranking.Recognizes candidate ∧
        ranking.severity candidate ≤ ranking.severity current := by
  rw [outranks_eq_ok_iff, decide_eq_false_iff_not, Nat.not_lt]

theorem outranks_trans {lower middle upper : Option String}
    (first : ranking.outranks lower middle = .ok true)
    (second : ranking.outranks middle upper = .ok true) :
    ranking.outranks lower upper = .ok true := by
  obtain ⟨known, _, raises⟩ := outranks_eq_true_iff.mp first
  obtain ⟨_, known', raises'⟩ := outranks_eq_true_iff.mp second
  exact outranks_eq_true_iff.mpr ⟨known, known', Nat.lt_trans raises raises'⟩

/-! ## The most severe of several releases -/

/-- The more severe of two releases, and the first of two alike. -/
def higher (ranking : Ranking) (current candidate : Option String) : Option String :=
  if ranking.severity current < ranking.severity candidate then candidate else current

theorem severity_higher (ranking : Ranking) (current candidate : Option String) :
    ranking.severity (ranking.higher current candidate) =
      max (ranking.severity current) (ranking.severity candidate) := by
  unfold higher
  split <;> omega

theorem higher_eq_or (ranking : Ranking) (current candidate : Option String) :
    ranking.higher current candidate = current ∨ ranking.higher current candidate = candidate := by
  unfold higher
  split
  · exact .inr rfl
  · exact .inl rfl

/-- The most severe of a release and those of a list. -/
def highestOf (ranking : Ranking) (best : Option String) (releases : List (Option String)) :
    Option String :=
  releases.foldl ranking.higher best

@[simp] theorem highestOf_nil (best : Option String) : ranking.highestOf best [] = best := rfl

@[simp] theorem highestOf_cons (best release : Option String) (rest : List (Option String)) :
    ranking.highestOf best (release :: rest) =
      ranking.highestOf (ranking.higher best release) rest := rfl

/-- The most severe release is one of those it was taken from. -/
theorem highestOf_mem (ranking : Ranking) (best : Option String)
    (releases : List (Option String)) : ranking.highestOf best releases ∈ best :: releases := by
  induction releases generalizing best with
  | nil => simp
  | cons release rest ih =>
    rw [highestOf_cons]
    rcases List.mem_cons.mp (ih (ranking.higher best release)) with same | later
    · rw [same]
      rcases ranking.higher_eq_or best release with kept | raised
      · simp [kept]
      · simp [raised]
    · exact List.mem_cons_of_mem _ (List.mem_cons_of_mem _ later)

theorem severity_best_le_highestOf (ranking : Ranking) (best : Option String)
    (releases : List (Option String)) :
    ranking.severity best ≤ ranking.severity (ranking.highestOf best releases) := by
  induction releases generalizing best with
  | nil => exact Nat.le_refl _
  | cons release rest ih =>
    have step := ranking.severity_higher best release
    have later := ih (ranking.higher best release)
    rw [highestOf_cons]
    omega

/-- No release of the list is more severe than the most severe one. -/
theorem severity_le_highestOf {best release : Option String} {releases : List (Option String)}
    (member : release ∈ releases) :
    ranking.severity release ≤ ranking.severity (ranking.highestOf best releases) := by
  induction releases generalizing best with
  | nil => cases member
  | cons next rest ih =>
    rw [highestOf_cons]
    rcases List.mem_cons.mp member with rfl | later
    · have step := ranking.severity_higher best release
      have rest := ranking.severity_best_le_highestOf (ranking.higher best release) rest
      omega
    · exact ih later

end Ranking
end ReleaseAnalysis
