import Mathlib.Data.List.Nodup
import Mathlib.Data.Option.Basic
import ReleaseAnalysis.Toml.Document

/-!
# The names in a document

A table is filled by assignments and by headers, and a name that is there already is never added a
second time: its value is changed, or the document is refused. So the entries of a document that is
read have distinct names (`Toml.distinct_of_read`).
-/

set_option autoImplicit false

namespace ReleaseAnalysis

namespace Toml

namespace Entries

variable {entries result : Entries} {name : String} {value : Value} {origin : Origin}

/-- The entries have distinct names. -/
def Distinct (entries : Entries) : Prop := (entries.map Prod.fst).Nodup

theorem distinct_nil : Distinct [] := List.nodup_nil

theorem not_mem_names_of_lookup (absent : entries.lookup name = none) :
    name ∉ entries.map Prod.fst := by
  intro listed
  obtain ⟨entry, inside, rfl⟩ := List.mem_map.mp listed
  have other := List.lookup_eq_none_iff.mp absent entry inside
  simp at other

/-- An entry may be added if its name is not there. -/
theorem Distinct.append (distinct : entries.Distinct) (absent : name ∉ entries.map Prod.fst) :
    (entries ++ [(name, value)]).Distinct := by
  rw [Distinct, List.map_append, List.nodup_append]
  refine ⟨distinct, List.nodup_singleton _, ?_⟩
  rintro label listed _ added rfl
  have same : label = name := List.mem_singleton.mp added
  exact absent (same ▸ listed)

/-- Changing the value of an entry changes no name. -/
theorem names_replace (entries : Entries) (name : String) (value : Value) :
    (entries.replace name value).map Prod.fst = entries.map Prod.fst := by
  rw [replace, List.map_map]
  refine List.map_congr_left fun entry _ => ?_
  by_cases same : entry.1 = name
  · simp [same]
  · simp [same]

theorem Distinct.replace (distinct : entries.Distinct) (name : String) (value : Value) :
    (entries.replace name value).Distinct := by
  rw [Distinct, names_replace]
  exact distinct

theorem Distinct.remove (distinct : entries.Distinct) (name : String) :
    (entries.remove name).Distinct :=
  (List.filter_sublist.map Prod.fst).nodup distinct

theorem not_mem_names_remove : name ∉ (entries.remove name).map Prod.fst := by
  intro listed
  obtain ⟨entry, inside, rfl⟩ := List.mem_map.mp listed
  have other := (List.mem_filter.mp inside).2
  simp at other

theorem Distinct.add? (distinct : entries.Distinct) (done : entries.add? name value = some result) :
    result.Distinct := by
  rw [Entries.add?] at done
  split at done
  · cases done
  · rename_i absent
    cases done
    rw [Bool.not_eq_true, Option.isSome_eq_false_iff, Option.isNone_iff_eq_none] at absent
    exact distinct.append (not_mem_names_of_lookup absent)

/-- A change somewhere below keeps the names distinct if a change on the spot does. -/
theorem Distinct.within {made : Origin} {mayEnter : Origin → Bool}
    {change : Origin → Entries → Option Entries} {path : List String} (distinct : entries.Distinct)
    (keeps : ∀ origin {before after : Entries}, before.Distinct →
      change origin before = some after → after.Distinct)
    (done : Entries.within made mayEnter change origin entries path = some result) :
    result.Distinct := by
  cases path with
  | nil => exact keeps origin distinct done
  | cons name path =>
    rw [Entries.within] at done
    cases found : entries.lookup name with
    | none =>
      rw [found] at done
      obtain ⟨inner, _, done⟩ := Option.bind_eq_some_iff.mp done
      cases done
      exact distinct.append (not_mem_names_of_lookup found)
    | some value =>
      rw [found] at done
      cases value with
      | table inside inner =>
        obtain ⟨_, _, done⟩ := Option.bind_eq_some_iff.mp done
        obtain ⟨inner, _, done⟩ := Option.bind_eq_some_iff.mp done
        cases done
        exact distinct.replace _ _
      | array inside items =>
        cases inside with
        | header =>
          dsimp only at done
          cases last : items.getLast? with
          | none =>
            rw [last] at done
            cases done
          | some item =>
            rw [last] at done
            cases item with
            | table inside inner =>
              obtain ⟨inner, _, done⟩ := Option.bind_eq_some_iff.mp done
              cases done
              exact distinct.replace _ _
            | _ => cases done
        | value | onTheWay | dotted => cases done
      | _ => cases done

theorem Distinct.assign? {assignment : Assignment} (distinct : entries.Distinct)
    (done : entries.assign? assignment = some result) : result.Distinct := by
  refine distinct.within ?_ done
  intro origin before after distinct done
  split at done
  · exact distinct.add? done
  · cases done

theorem Distinct.fillTable? {path : List String} {fill : Entries → Option Entries}
    (distinct : entries.Distinct) (done : entries.fillTable? path name fill = some result) :
    result.Distinct := by
  refine distinct.within ?_ done
  intro origin before after distinct done
  split at done
  · rename_i absent
    obtain ⟨inner, _, done⟩ := Option.bind_eq_some_iff.mp done
    cases done
    exact distinct.append (not_mem_names_of_lookup absent)
  · obtain ⟨inner, _, done⟩ := Option.bind_eq_some_iff.mp done
    cases done
    exact (distinct.remove _).append not_mem_names_remove
  · cases done

theorem Distinct.fillItem? {path : List String} {fill : Entries → Option Entries}
    (distinct : entries.Distinct) (done : entries.fillItem? path name fill = some result) :
    result.Distinct := by
  refine distinct.within ?_ done
  intro origin before after distinct done
  split at done
  · rename_i absent
    obtain ⟨inner, _, done⟩ := Option.bind_eq_some_iff.mp done
    cases done
    exact distinct.append (not_mem_names_of_lookup absent)
  · obtain ⟨inner, _, done⟩ := Option.bind_eq_some_iff.mp done
    cases done
    exact distinct.replace _ _
  · cases done

end Entries

/-- What every step keeps holds after all steps. -/
theorem holds_of_foldlM {α β : Type} {P : β → Prop} {step : β → α → Option β} {state final : β}
    {items : List α} (start : P state)
    (keeps : ∀ {before after : β} {item : α}, P before → step before item = some after → P after)
    (done : items.foldlM step state = some final) : P final := by
  induction items generalizing state with
  | nil =>
    cases done
    exact start
  | cons item rest ih =>
    rw [List.foldlM_cons] at done
    obtain ⟨next, first, done⟩ := Option.bind_eq_some_iff.mp done
    exact ih (keeps start first) done

/-- A section keeps the names of a document distinct. -/
theorem Entries.Distinct.addTo {part : Section} {document result : Entries}
    (distinct : document.Distinct) (done : part.addTo document = some result) :
    result.Distinct := by
  rw [Section.addTo] at done
  split at done
  · exact holds_of_foldlM distinct Entries.Distinct.assign? done
  · split at done
    · exact distinct.fillItem? done
    · exact distinct.fillTable? done

/-- **The entries of a document that is read have distinct names.** -/
theorem distinct_of_read {text : String} {entries : Entries} (read : read? text = some entries) :
    entries.Distinct := by
  obtain ⟨⟨lines, rest⟩, _, read⟩ := Option.bind_eq_some_iff.mp read
  obtain ⟨_, _, done⟩ := Option.bind_eq_some_iff.mp read
  exact holds_of_foldlM Entries.distinct_nil Entries.Distinct.addTo done

end Toml
end ReleaseAnalysis
