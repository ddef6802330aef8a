import ReleaseAnalysis.Proofs.Ranking.Severity

/-!
# What a search through findings concludes

The rules are gone through for one commit and the commits for one analysis in the same manner.
Each of them is a finding, an error or an optional release, and two kinds of findings are
decisive: an error, and the highest release type. Nothing behind a decisive finding counts.

The conclusion is the first decisive finding, and where there is none the most severe of the
releases (`conclude`). It can be taken from left to right (`conclude_of_decides`,
`conclude_of_not_decides`), which is how both loops compute it.

An error is concluded exactly when it is the first decisive finding
(`conclude_eq_error_iff`). A release that is concluded is one of the findings
(`mem_of_conclude_eq_ok`) and none of them is more severe, whether it stands before the end of the
search or behind it (`severity_le_of_conclude_eq_ok`).

Searches that succeed can be compared by what they find, in whatever order: more findings conclude
no less (`severity_le_of_conclude_of_subset`), and the same findings conclude the same
(`eq_of_conclude_of_mem_iff`).
-/

set_option autoImplicit false

namespace ReleaseAnalysis

/-- What a rule or a commit contributes to a search: an error, or an optional release. -/
abbrev Finding := Except AnalysisError (Option String)

namespace Ranking

variable {ranking : Ranking}

/-- Whether a finding ends a search: an error does, and the highest release type. -/
def decides (ranking : Ranking) : Finding → Bool
  | .error _ => true
  | .ok release => release = some ranking.highest

@[simp] theorem decides_error (cause : AnalysisError) : ranking.decides (.error cause) = true := rfl

@[simp] theorem decides_ok {release : Option String} :
    ranking.decides (.ok release) = true ↔ release = some ranking.highest := by
  simp [decides]

/-- A finding that does not end a search is a release other than the highest. -/
theorem decides_eq_false_iff {finding : Finding} :
    ranking.decides finding = false ↔
      ∃ release, finding = .ok release ∧ release ≠ some ranking.highest := by
  cases finding with
  | error cause => simp
  | ok release => simp [decides]

/-- The first decisive finding, or the most severe of all releases. -/
def conclude (ranking : Ranking) (best : Option String) (findings : List Finding) : Finding :=
  (findings.find? ranking.decides).getD
    (.ok (ranking.highestOf best (findings.filterMap Except.toOption)))

theorem conclude_of_decides {best : Option String} {finding : Finding} {rest : List Finding}
    (decisive : ranking.decides finding = true) :
    ranking.conclude best (finding :: rest) = finding := by
  simp [conclude, decisive]

theorem conclude_of_not_decides {best release : Option String} {rest : List Finding}
    (other : release ≠ some ranking.highest) :
    ranking.conclude best (.ok release :: rest) =
      ranking.conclude (ranking.higher best release) rest := by
  have undecided : ranking.decides (.ok release) = false :=
    decides_eq_false_iff.mpr ⟨release, rfl, other⟩
  simp [conclude, undecided, Except.toOption]

/-- The first decisive finding is the conclusion, whatever comes behind it. -/
theorem conclude_append_cons {best : Option String} {earlier : List Finding} {finding : Finding}
    (undecided : ∀ other ∈ earlier, ranking.decides other = false)
    (decisive : ranking.decides finding = true) (later : List Finding) :
    ranking.conclude best (earlier ++ finding :: later) = finding := by
  have none : earlier.find? ranking.decides = none :=
    List.find?_eq_none.mpr fun other member => by simp [undecided other member]
  simp [conclude, none, decisive]

/-- Where no finding is decisive the conclusion is a release. -/
theorem conclude_eq_highestOf {best : Option String} {findings : List Finding}
    (undecided : ∀ finding ∈ findings, ranking.decides finding = false) :
    ranking.conclude best findings =
      .ok (ranking.highestOf best (findings.filterMap Except.toOption)) := by
  have none : findings.find? ranking.decides = none :=
    List.find?_eq_none.mpr fun finding member => by simp [undecided finding member]
  simp [conclude, none]

/-- A search ends at a decisive finding or goes through to the end. -/
theorem conclude_cases (ranking : Ranking) (best : Option String) (findings : List Finding) :
    (ranking.decides (ranking.conclude best findings) = true ∧
        ranking.conclude best findings ∈ findings) ∨
      ∀ finding ∈ findings, ranking.decides finding = false := by
  cases first : findings.find? ranking.decides with
  | some finding =>
    have same : ranking.conclude best findings = finding := by simp [conclude, first]
    rw [same]
    exact .inl ⟨List.find?_some first, List.mem_of_find?_eq_some first⟩
  | none =>
    refine .inr fun finding member => ?_
    exact Bool.eq_false_iff.mpr (List.find?_eq_none.mp first finding member)

/-- An error is concluded exactly when it is the first decisive finding. -/
theorem conclude_eq_error_iff {best : Option String} {findings : List Finding}
    {cause : AnalysisError} :
    ranking.conclude best findings = .error cause ↔
      findings.find? ranking.decides = some (.error cause) := by
  unfold conclude
  cases findings.find? ranking.decides with
  | none => simp
  | some finding => simp

/-- Of a list of things that are searched, an error is the finding of one of them, and none before
it decides. -/
theorem conclude_map_eq_error_iff {α : Type} {find : α → Finding} {items : List α}
    {best : Option String} {cause : AnalysisError} :
    ranking.conclude best (items.map find) = .error cause ↔
      ∃ (place : Nat) (item : α), items[place]? = some item ∧ find item = .error cause ∧
        ∀ earlier < place, ∀ other, items[earlier]? = some other →
          ranking.decides (find other) = false := by
  rw [conclude_eq_error_iff, List.find?_eq_some_iff_getElem]
  constructor
  · rintro ⟨_, place, bound, found, before⟩
    rw [List.length_map] at bound
    rw [List.getElem_map] at found
    refine ⟨place, items[place], List.getElem?_eq_getElem bound, found, ?_⟩
    intro earlier less other listed
    obtain ⟨_, rfl⟩ := List.getElem?_eq_some_iff.mp listed
    simpa using before earlier less
  · rintro ⟨place, item, listed, found, before⟩
    obtain ⟨bound, rfl⟩ := List.getElem?_eq_some_iff.mp listed
    refine ⟨decides_error cause, place, by simpa using bound, by simpa using found, ?_⟩
    intro earlier less
    have inside : earlier < items.length := Nat.lt_trans less bound
    simpa using before earlier less _ (List.getElem?_eq_getElem inside)

/-- A release that is concluded is the one of the start or one of the findings. -/
theorem mem_of_conclude_eq_ok {best release : Option String} {findings : List Finding}
    (concluded : ranking.conclude best findings = .ok release) :
    release = best ∨ .ok release ∈ findings := by
  rcases ranking.conclude_cases best findings with ⟨_, member⟩ | undecided
  · exact .inr (concluded ▸ member)
  · rw [conclude_eq_highestOf undecided, Except.ok.injEq] at concluded
    rw [← concluded]
    rcases List.mem_cons.mp (ranking.highestOf_mem best _) with same | found
    · exact .inl same
    · obtain ⟨finding, member, same⟩ := List.mem_filterMap.mp found
      cases finding with
      | error cause => cases same
      | ok other =>
        refine .inr ?_
        rwa [← Option.some.inj same]

/-- **No release among the findings is more severe than the one concluded**, whether the search
came to it or not. -/
theorem severity_le_of_conclude_eq_ok {best release other : Option String}
    {findings : List Finding} (concluded : ranking.conclude best findings = .ok release)
    (member : .ok other ∈ findings) : ranking.severity other ≤ ranking.severity release := by
  rcases ranking.conclude_cases best findings with ⟨decisive, _⟩ | undecided
  · rw [concluded, decides_ok] at decisive
    rw [decisive]
    exact ranking.severity_le_highest other
  · rw [conclude_eq_highestOf undecided, Except.ok.injEq] at concluded
    rw [← concluded]
    exact severity_le_highestOf (List.mem_filterMap.mpr ⟨.ok other, member, rfl⟩)

/-- A search that concludes a release other than the highest went through to the end. -/
theorem not_decides_of_conclude_eq_ok {best release : Option String} {findings : List Finding}
    (concluded : ranking.conclude best findings = .ok release)
    (other : release ≠ some ranking.highest) :
    ∀ finding ∈ findings, ranking.decides finding = false := by
  rcases ranking.conclude_cases best findings with ⟨decisive, _⟩ | undecided
  · rw [concluded, decides_ok] at decisive
    exact absurd decisive other
  · exact undecided

/-- What a search concludes from recognized releases is recognized. -/
theorem recognizes_of_conclude {release : Option String} {findings : List Finding}
    (known : ∀ other, (.ok other : Finding) ∈ findings → ranking.Recognizes other)
    (concluded : ranking.conclude none findings = .ok release) : ranking.Recognizes release := by
  rcases mem_of_conclude_eq_ok concluded with rfl | member
  · exact recognizes_none
  · exact known release member

/-! ## Two searches -/

/-- **A search that finds all that another finds concludes no less.** Neither the order of the
findings nor the errors among them matter. -/
theorem severity_le_of_conclude_of_subset {lesser greater : Option String}
    {findings others : List Finding}
    (found : ∀ id, (.ok (some id) : Finding) ∈ findings → .ok (some id) ∈ others)
    (concluded : ranking.conclude none findings = .ok lesser)
    (concluded' : ranking.conclude none others = .ok greater) :
    ranking.severity lesser ≤ ranking.severity greater := by
  cases lesser with
  | none => exact Nat.zero_le _
  | some id =>
    rcases mem_of_conclude_eq_ok concluded with absent | member
    · cases absent
    · exact severity_le_of_conclude_eq_ok concluded' (found id member)

/-- Two searches with the same findings conclude the same release if both conclude one. -/
theorem eq_of_conclude_of_mem_iff {left right : Option String} {findings others : List Finding}
    (same : ∀ finding, finding ∈ findings ↔ finding ∈ others)
    (known : ∀ release, (.ok release : Finding) ∈ findings → ranking.Recognizes release)
    (concluded : ranking.conclude none findings = .ok left)
    (concluded' : ranking.conclude none others = .ok right) : left = right := by
  have known' : ∀ release, (.ok release : Finding) ∈ others → ranking.Recognizes release :=
    fun release member => known release ((same _).mpr member)
  refine severity_injective (recognizes_of_conclude known concluded)
    (recognizes_of_conclude known' concluded') (Nat.le_antisymm ?_ ?_)
  · exact severity_le_of_conclude_of_subset (fun id => (same _).mp) concluded concluded'
  · exact severity_le_of_conclude_of_subset (fun id => (same _).mpr) concluded' concluded

end Ranking
end ReleaseAnalysis
