import ReleaseAnalysis.Proofs.Rule.Reading
import ReleaseAnalysis.Proofs.Toml.Content

/-!
# Rules in two formats

A rule may stand in a configuration document as a table, or in a text of its own as an object. The
members of a rule may be written in any order, as long as their names are distinct
(`Rule.ofMembers_eq_ok_iff_of_perm`). As the same content looks the same to a reserved member and
has the same normal form, a table gives a rule exactly when the text of the object does, and then
both give the same rule (`Toml.Value.SpelledBy.rule_eq_ok_iff`).
-/

set_option autoImplicit false

namespace ReleaseAnalysis

/-! ## Members of a rule in another order -/

/-- The order of the values given for a reserved member does not matter: there is one at most. -/
theorem Takes.of_perm {α : Type} {read : ReservedValue → Except DocumentFault α}
    {known result : Option α} {values others : List ReservedValue}
    (takes : Takes read known values result) (same : values.Perm others) :
    Takes read known others result := by
  cases takes with
  | absent =>
    rw [List.nil_perm.mp same]
    exact .absent _
  | once given =>
    rw [← List.singleton_perm.mp same]
    exact .once given

namespace Rule

variable {rule : Rule} {members others : List RuleMember}

theorem names_plainMembers (members : List RuleMember) :
    (plainMembers members).map Prod.fst =
      (members.filter (¬ IsReserved ·.name)).map RuleMember.name := by
  rw [plainMembers, List.map_map]
  rfl

theorem ofMembers_of_perm (same : members.Perm others)
    (distinct : (members.map RuleMember.name).Nodup) (read : ofMembers members = .ok rule) :
    ofMembers others = .ok rule := by
  obtain ⟨release, breaking, takesRelease, takesBreaking, rfl⟩ := ofMembers_eq_ok_iff.mp read
  have names : ((plainMembers members).map Prod.fst).Nodup := by
    rw [names_plainMembers]
    exact (List.filter_sublist.map RuleMember.name).nodup distinct
  have fields : (plainMembers members).Perm (plainMembers others) := (same.filter _).map _
  rw [Members.ofList_eq_of_perm fields names]
  exact ofMembers_eq_ok_iff.mpr ⟨release, breaking, takesRelease.of_perm ((same.filter _).map _),
    takesBreaking.of_perm ((same.filter _).map _), rfl⟩

/-- **The members of a rule may be written in any order, if their names are distinct.** -/
theorem ofMembers_eq_ok_iff_of_perm (same : members.Perm others)
    (distinct : (members.map RuleMember.name).Nodup) :
    ofMembers members = .ok rule ↔ ofMembers others = .ok rule := by
  constructor
  · exact ofMembers_of_perm same distinct
  · exact ofMembers_of_perm same.symm ((same.map RuleMember.name).nodup_iff.mp distinct)

end Rule

/-! ## Tables and texts -/

theorem Json.readMembers_of_readWritten {text : String} {members : List (String × Json)}
    (read : readWritten text = some (.object members)) :
    readMembers text = (members, true) := by
  unfold readWritten at read
  unfold readMembers
  split at read
  · rename_i done
    cases read
    rw [done]
  · cases read

/-- The text of an object spells the rule of the members as they are written. -/
theorem Rule.ofText_eq_ok_iff_of_readWritten {rule : Rule} {text : String}
    {members : List (String × Json)} (read : Json.readWritten text = some (.object members)) :
    ofText text = .ok rule ↔ ofMembers (members.map memberOfJson) = .ok rule := by
  rw [ofText_eq_ok_iff, Json.readMembers_of_readWritten read]
  simp only [Prod.mk.injEq, and_true, exists_eq_left']

namespace Toml
namespace Value

variable {value : Value} {origin : Origin} {entries : Entries} {members : List (String × Json)}
  {text : String} {rule : Rule}

/-- The entries of a table are the members of the object, as far as a rule is concerned. -/
theorem SameAs.members_perm (same : SameAs (.table origin entries) (.object members)) :
    (entries.map memberOf).Perm (members.map Rule.memberOfJson) := by
  cases same with
  | table distinct names each =>
    refine perm_map_of_names names fun entry listed member inside equal => ?_
    have content := each entry listed member inside equal
    rw [memberOf, Rule.memberOfJson, equal, content.reserved_eq, content.normalize_eq]

theorem SameAs.names_nodup (same : SameAs (.table origin entries) (.object members)) :
    ((entries.map memberOf).map RuleMember.name).Nodup := by
  cases same with
  | table distinct names each =>
    rw [List.map_map]
    exact distinct

/-- **A table gives the rule that a text with the same content gives.** -/
theorem SpelledBy.rule_eq_ok_iff (spelled : value.SpelledBy text) :
    value.rule = .ok rule ↔ Rule.ofText text = .ok rule := by
  obtain ⟨members, read, same⟩ := spelled
  cases value with
  | table origin entries =>
    rw [Value.rule, Rule.ofMembers_eq_ok_iff_of_perm same.members_perm same.names_nodup,
      Rule.ofText_eq_ok_iff_of_readWritten read]
  | _ => cases same

end Value
end Toml
end ReleaseAnalysis
