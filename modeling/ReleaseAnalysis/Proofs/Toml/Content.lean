import Mathlib.Algebra.Order.Ring.Int
import ReleaseAnalysis.Config.Reader
import ReleaseAnalysis.Proofs.Json.Reordering
import ReleaseAnalysis.Proofs.Json.RoundTrip
import ReleaseAnalysis.Proofs.Toml.Names

/-!
# The content of a configuration document

The content of a table may be written as an object as well. Both are the same when they have the
same names, each once and in any order, and what stands under a name is the same
(`Toml.Value.SameAs`); how a table came about does not count. Strings, whole numbers, flags, arrays
and tables can be written in both formats. Whether two values have the same content is decidable.

The same content has the same normal form (`Toml.Value.SameAs.normalize_eq`), and every plain table
is spelled by the text of an object (`Toml.Value.Plain.spelledBy_compact`).
-/

set_option autoImplicit false

namespace ReleaseAnalysis

/-! ## The same content -/

namespace Toml

theorem itemsToJson_eq_map (items : List Value) : itemsToJson items = items.map Value.toJson := by
  induction items with
  | nil => rfl
  | cons item rest ih => rw [itemsToJson, ih, List.map_cons]

theorem entriesToJson_eq_map (entries : Entries) :
    entriesToJson entries = entries.map fun entry => (entry.1, entry.2.toJson) := by
  induction entries with
  | nil => rfl
  | cons entry rest ih => rw [entriesToJson, ih, List.map_cons]

namespace Value

/-- A value of a configuration document and a value of a text have the same content. -/
inductive SameAs : Value → Json → Prop
  | text (found : String) : SameAs (.text found) (.ofString found)
  | integer (found : Int) : SameAs (.integer found) (.scalar (.number (.int found)))
  | flag (found : Bool) : SameAs (.flag found) (.scalar (.bool found))
  | array {origin : Origin} {items : List Value} {others : List Json}
    (length : items.length = others.length)
    (each : ∀ (index : Nat) (item : Value) (other : Json), items[index]? = some item →
      others[index]? = some other → SameAs item other) :
    SameAs (.array origin items) (.array others)
  | table {origin : Origin} {entries : Entries} {members : List (String × Json)}
    (distinct : entries.Distinct) (names : (entries.map Prod.fst).Perm (members.map Prod.fst))
    (each : ∀ entry ∈ entries, ∀ member ∈ members, entry.1 = member.1 →
      SameAs entry.2 member.2) :
    SameAs (.table origin entries) (.object members)

variable {value : Value} {other : Json} {origin : Origin} {entries : Entries}
  {members : List (String × Json)} {text : String}

/-- Reserved members see no difference. -/
theorem SameAs.reserved_eq (same : value.SameAs other) : value.reserved = other.reserved := by
  cases same with
  | text found => rfl
  | integer found => rfl
  | flag found => rfl
  | array length each => rfl
  | table distinct names each => rfl

/-- **The same content has the same normal form.** -/
theorem SameAs.normalize_eq (same : value.SameAs other) :
    value.toJson.normalize = other.normalize := by
  induction same with
  | text found => rfl
  | integer found => rfl
  | flag found => rfl
  | @array origin items others length each ih =>
    have items : (items.map toJson).map Json.normalize = others.map Json.normalize := by
      refine List.ext_getElem (by simpa using length) fun index inside also => ?_
      simp only [List.length_map] at inside also
      simp only [List.getElem_map]
      exact ih index _ _ (List.getElem?_eq_getElem inside) (List.getElem?_eq_getElem also)
    rw [toJson, Json.normalize, Json.normalize, itemsToJson_eq_map, Json.normalizeItems_eq_map,
      Json.normalizeItems_eq_map, items]
  | @table origin entries members distinct names each ih =>
    have sorted : Members.ofList (entries.map fun entry => (entry.1, entry.2.toJson.normalize)) =
        Members.ofList (members.map fun member => (member.1, member.2.normalize)) := by
      refine Members.ofList_eq_of_perm (perm_map_of_names names ?_) ?_
      · intro entry listed member inside equal
        rw [equal, ih entry listed member inside equal]
      · rw [List.map_map]
        exact distinct
    rw [toJson, Json.normalize, Json.normalize, entriesToJson_eq_map, Json.normalizeMembers_eq_map,
      Json.normalizeMembers_eq_map, List.map_map]
    exact congrArg Json.object sorted

/-! ## Deciding whether the content is the same -/

mutual

/-- Checks that a value has the content of another one. -/
def hasContent : Value → Json → Bool
  | .text found, .scalar (.string other) => found = other
  | .integer found, .scalar (.number (.int other)) => found = other
  | .flag found, .scalar (.bool other) => found = other
  | .array _ items, .array others => itemsHaveContent items others
  | .table _ entries, .object members =>
    (entries.map Prod.fst).Nodup && (entries.map Prod.fst).Perm (members.map Prod.fst) &&
      entriesHaveContent entries members
  | _, _ => false

/-- Checks items one by one. -/
def itemsHaveContent : List Value → List Json → Bool
  | [], [] => true
  | item :: items, other :: others => hasContent item other && itemsHaveContent items others
  | _, _ => false

/-- Checks entries one by one against the members of their names. -/
def entriesHaveContent : List (String × Value) → List (String × Json) → Bool
  | [], _ => true
  | (name, value) :: rest, members =>
    members.all (fun member => name ≠ member.1 || hasContent value member.2) &&
      entriesHaveContent rest members

end

mutual

/-- What passes the check has the same content. -/
theorem sameAs_of_hasContent : ∀ {value : Value} {other : Json}, hasContent value other = true →
    SameAs value other
  | .text found, .scalar (.string other), checked => by
    obtain rfl : found = other := by simpa [hasContent] using checked
    exact .text found
  | .integer found, .scalar (.number (.int other)), checked => by
    obtain rfl : found = other := by simpa [hasContent] using checked
    exact .integer found
  | .flag found, .scalar (.bool other), checked => by
    obtain rfl : found = other := by simpa [hasContent] using checked
    exact .flag found
  | .array origin items, .array others, checked =>
    .array (sameAs_of_itemsHaveContent checked).1 (sameAs_of_itemsHaveContent checked).2
  | .table origin entries, .object members, checked => by
    simp only [hasContent, Bool.and_eq_true, decide_eq_true_eq] at checked
    exact .table checked.1.1 checked.1.2 (sameAs_of_entriesHaveContent checked.2)

theorem sameAs_of_itemsHaveContent : ∀ {items : List Value} {others : List Json},
    itemsHaveContent items others = true → items.length = others.length ∧
      ∀ (index : Nat) (item : Value) (other : Json), items[index]? = some item →
        others[index]? = some other → SameAs item other
  | [], [], _ => ⟨rfl, nofun⟩
  | item :: items, other :: others, checked => by
    rw [itemsHaveContent, Bool.and_eq_true] at checked
    obtain ⟨length, each⟩ := sameAs_of_itemsHaveContent checked.2
    refine ⟨congrArg Nat.succ length, ?_⟩
    intro index found among listed inside
    cases index with
    | zero =>
      cases listed
      cases inside
      exact sameAs_of_hasContent checked.1
    | succ index => exact each index found among listed inside

theorem sameAs_of_entriesHaveContent : ∀ {entries : List (String × Value)}
    {members : List (String × Json)}, entriesHaveContent entries members = true →
      ∀ entry ∈ entries, ∀ member ∈ members, entry.1 = member.1 → SameAs entry.2 member.2
  | [], _, _ => nofun
  | (name, value) :: rest, members, checked => by
    simp only [entriesHaveContent, Bool.and_eq_true, List.all_eq_true, Bool.or_eq_true,
      decide_eq_true_eq] at checked
    intro entry listed member inside equal
    rcases List.mem_cons.mp listed with rfl | later
    · exact sameAs_of_hasContent ((checked.1 member inside).resolve_left (absurd equal))
    · exact sameAs_of_entriesHaveContent checked.2 entry later member inside equal

end

theorem itemsHaveContent_of_forall {items : List Value} {others : List Json}
    (length : items.length = others.length)
    (each : ∀ (index : Nat) (item : Value) (other : Json), items[index]? = some item →
      others[index]? = some other → hasContent item other = true) :
    itemsHaveContent items others = true := by
  induction items generalizing others with
  | nil =>
    rw [List.length_eq_zero_iff.mp length.symm]
    rfl
  | cons item rest ih =>
    cases others with
    | nil => cases length
    | cons other others =>
      rw [itemsHaveContent, Bool.and_eq_true]
      refine ⟨each 0 item other rfl rfl, ih (Nat.succ.inj length) ?_⟩
      intro index found among listed inside
      exact each (index + 1) found among listed inside

theorem entriesHaveContent_of_forall {entries : List (String × Value)}
    (each : ∀ entry ∈ entries, ∀ member ∈ members, entry.1 = member.1 →
      hasContent entry.2 member.2 = true) : entriesHaveContent entries members = true := by
  induction entries with
  | nil => rfl
  | cons entry rest ih =>
    obtain ⟨first, others⟩ := List.forall_mem_cons.mp each
    simp only [entriesHaveContent, Bool.and_eq_true, List.all_eq_true, Bool.or_eq_true,
      decide_eq_true_eq]
    refine ⟨fun member inside => ?_, ih others⟩
    by_cases equal : entry.1 = member.1
    · exact .inr (first member inside equal)
    · exact .inl equal

/-- The same content passes the check. -/
theorem SameAs.hasContent_eq_true (same : value.SameAs other) : hasContent value other = true := by
  induction same with
  | text found | integer found | flag found => simp [hasContent, Json.ofString]
  | array length _ ih => exact itemsHaveContent_of_forall length ih
  | table distinct names _ ih =>
    simp only [hasContent, Bool.and_eq_true, decide_eq_true_eq]
    exact ⟨⟨distinct, names⟩, entriesHaveContent_of_forall ih⟩

instance (value : Value) (other : Json) : Decidable (value.SameAs other) :=
  decidable_of_iff _ ⟨sameAs_of_hasContent, SameAs.hasContent_eq_true⟩

/-! ## Texts -/

/-- A text spells the object that has the content of a table. -/
def SpelledBy (value : Value) (text : String) : Prop :=
  ∃ members, Json.readWritten text = some (.object members) ∧ value.SameAs (.object members)

instance (value : Value) (text : String) : Decidable (value.SpelledBy text) :=
  match read : Json.readWritten text with
  | some (.object members) =>
    decidable_of_iff (value.SameAs (.object members)) <| by
      simp only [SpelledBy, read, Option.some.injEq, Json.object.injEq, exists_eq_left']
  | some (.scalar _) | some (.array _) | none =>
    isFalse <| by
      rintro ⟨members, spelled, _⟩
      rw [read] at spelled
      cases spelled

/-! ## Tables that have a text -/

/-- A value made of strings, whole numbers with a sign of 64 bits, flags, arrays and tables. -/
inductive Plain : Value → Prop
  | text (found : String) : Plain (.text found)
  | integer {found : Int} (fits : -2 ^ 63 ≤ found ∧ found < 2 ^ 63) : Plain (.integer found)
  | flag (found : Bool) : Plain (.flag found)
  | array {origin : Origin} {items : List Value} (all : ∀ item ∈ items, Plain item) :
    Plain (.array origin items)
  | table {origin : Origin} {entries : Entries} (distinct : entries.Distinct)
    (all : ∀ entry ∈ entries, Plain entry.2) : Plain (.table origin entries)

/-- A plain value keeps its content as the value of a rule field. -/
theorem Plain.sameAs (plain : value.Plain) : value.SameAs value.toJson := by
  induction plain with
  | text found => exact .text found
  | integer fits => exact .integer _
  | flag found => exact .flag found
  | array all ih =>
    rw [toJson, itemsToJson_eq_map]
    refine .array (List.length_map _).symm ?_
    intro index item other listed found
    rw [List.getElem?_map, listed] at found
    cases found
    exact ih item (List.mem_of_getElem? listed)
  | table distinct all ih =>
    rw [toJson, entriesToJson_eq_map]
    refine .table distinct ?_ ?_
    · rw [List.map_map]
      exact List.Perm.refl _
    · intro entry listed member inside equal
      obtain ⟨again, among, rfl⟩ := List.mem_map.mp inside
      rw [List.inj_on_of_nodup_map distinct listed among equal]
      exact ih again among

/-- A plain value is made of scalars that are read back from their texts. -/
theorem Plain.each_isExact (plain : value.Plain) : value.toJson.Each Scalar.IsExact := by
  induction plain with
  | text found => exact .scalar ⟨trivial, id⟩
  | integer fits =>
    refine .scalar ⟨?_, id⟩
    change -(2 ^ 63 : Int) ≤ _ ∧ _ ≤ (2 ^ 64 - 1 : Int)
    omega
  | flag found => exact .scalar ⟨trivial, id⟩
  | array all ih =>
    rw [toJson, itemsToJson_eq_map]
    exact .array (List.forall_mem_map.mpr ih)
  | table distinct all ih =>
    rw [toJson, entriesToJson_eq_map]
    exact .object (List.forall_mem_map.mpr ih)

/-- **Every plain table that is not nested too deep is spelled by a text.** -/
theorem Plain.spelledBy_compact (plain : Plain (.table origin entries))
    (shallow : (toJson (.table origin entries)).depth ≤ Json.nestingLimit) :
    SpelledBy (.table origin entries) (toJson (.table origin entries)).compact := by
  exact ⟨entriesToJson entries, Json.readWritten_compact plain.each_isExact shallow, plain.sameAs⟩

end Value
end Toml
end ReleaseAnalysis
