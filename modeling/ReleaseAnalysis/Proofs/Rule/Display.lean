import ReleaseAnalysis.Proofs.Json.Delivery
import ReleaseAnalysis.Proofs.Json.RoundTrip
import ReleaseAnalysis.Proofs.Rule.Reading

/-!
# The display of a rule spells the rule

The display of a rule puts its reserved members among its fields, with `false` for no release and no
flag for a rule that asks for no breaking commit; reading takes them apart again. For a rule that
was read from a text the two are inverse to each other, provided no floating-point number occurs in
it (`Rule.display_spells_rule`). Such a rule is therefore known from its display.

What makes this work is what reading establishes (`Rule.Spelled`): the fields are in order and
bear no reserved name, their values are normal and leave room for the object around them, and the
empty string is no release.
-/

set_option autoImplicit false

namespace ReleaseAnalysis
namespace Rule

open Json (Each Normal Sits)

variable {rule : Rule} {text : String}

/-- A rule as reading leaves it. -/
structure Spelled (rule : Rule) : Prop where
  increasing : rule.fields.Increasing
  unreserved : ∀ field ∈ rule.fields, ¬ IsReserved field.1
  named : rule.release ≠ some ""
  normal : ∀ field ∈ rule.fields, field.2.Normal
  sits : ∀ field ∈ rule.fields, Sits 1 field.2

/-- A rule that was read is as reading leaves it. -/
theorem spelled_of_ofText (read : ofText text = .ok rule) : rule.Spelled := by
  obtain ⟨members, readMembers, spelled⟩ := ofText_eq_ok_iff.mp read
  have value_of_field : ∀ field ∈ rule.fields,
      ∃ member ∈ members, field = (member.1, member.2.normalize) := by
    intro field found
    obtain ⟨_, _, listed, rfl⟩ := exists_member_of_ofMembers spelled found
    obtain ⟨member, inside, rfl⟩ := List.mem_map.mp listed
    exact ⟨member, inside, rfl⟩
  refine ⟨increasing_of_ofMembers spelled,
    fun field found => (exists_member_of_ofMembers spelled found).1,
    release_ne_empty_of_ofMembers spelled, ?_, ?_⟩
  · intro field found
    obtain ⟨member, _, rfl⟩ := value_of_field field found
    exact Json.normal_normalize member.2
  · intro field found
    obtain ⟨member, inside, rfl⟩ := value_of_field field found
    exact (Json.sits_of_readMembers readMembers member inside).normalize

/-! ## The members that are shown -/

/-- The value that is shown for the release. -/
def shownRelease (rule : Rule) : Json := .scalar (rule.release.elim (.bool false) .string)

/-- The fields with the flag, if it is set. -/
def flagged (rule : Rule) : Members :=
  if rule.breaking then rule.fields.insert "breaking" (.scalar (.bool true)) else rule.fields

/-- The members of the display: the fields and the two reserved members. -/
def shown (rule : Rule) : Members := rule.flagged.insert "release" rule.shownRelease

theorem toValue_eq (rule : Rule) : rule.toValue = .object rule.shown := rfl

/-- A member that is shown is a field or a scalar under a reserved name. -/
theorem mem_shown {member : String × Json} (found : member ∈ rule.shown) :
    member ∈ rule.fields ∨ ∃ value, member.2 = .scalar value ∧ ¬ value.IsFloat ∧ value.Fits := by
  rcases Members.eq_or_mem_of_mem_insert found with rfl | found
  · refine .inr ⟨_, rfl, ?_⟩
    cases rule.release with
    | none => exact ⟨id, trivial⟩
    | some release => exact ⟨id, trivial⟩
  · rw [flagged] at found
    split at found
    · rcases Members.eq_or_mem_of_mem_insert found with rfl | found
      · exact .inr ⟨_, rfl, id, trivial⟩
      · exact .inl found
    · exact .inl found

namespace Spelled

variable (spelled : rule.Spelled)
include spelled

theorem increasing_flagged : rule.flagged.Increasing := by
  rw [flagged]
  split
  · exact spelled.increasing.insert _ _
  · exact spelled.increasing

/-- The display is a normal value. -/
theorem normal_toValue : rule.toValue.Normal := by
  refine .object (spelled.increasing_flagged.insert _ _) fun member found => ?_
  rcases mem_shown found with field | ⟨value, same, _⟩
  · exact spelled.normal member field
  · exact same ▸ .scalar value

/-- The display is not nested beyond the limit. -/
theorem depth_toValue_le : rule.toValue.depth ≤ Json.nestingLimit := by
  have inner : Json.membersDepth rule.shown ≤ Json.nestingLimit - 1 := by
    refine Json.membersDepth_le_iff.mpr fun member found => ?_
    rcases mem_shown found with field | ⟨value, same, _⟩
    · have := (spelled.sits member field).shallow
      omega
    · exact same ▸ Nat.zero_le _
  have room : 1 ≤ Json.nestingLimit := by decide
  rw [toValue_eq, Json.depth]
  omega

/-- Without floating-point numbers all scalars of the display are exact. -/
theorem each_toValue (whole : ∀ field ∈ rule.fields, field.2.Each (¬ ·.IsFloat)) :
    rule.toValue.Each Scalar.IsExact := by
  refine .object fun member found => ?_
  rcases mem_shown found with field | ⟨value, same, notFloat, fits⟩
  · exact ((spelled.sits member field).fits.and (whole member field)).imp fun _ both =>
      ⟨both.1, both.2⟩
  · exact same ▸ .scalar ⟨fits, notFloat⟩

end Spelled

/-! ## Reading the members that are shown -/

theorem valuesOf_map_memberOfJson (name : String) (members : Members) :
    valuesOf name (members.map memberOfJson) =
      (members.filter (·.1 = name)).map fun member => member.2.reserved := by
  rw [valuesOf, List.filter_map, List.map_map]
  rfl

theorem plainMembers_map_memberOfJson (members : Members) :
    plainMembers (members.map memberOfJson) =
      (members.filter (¬ IsReserved ·.1)).map fun member => (member.1, member.2.normalize) := by
  rw [plainMembers, List.filter_map, List.map_map]
  rfl

/-- No value is given for a name that no member bears. -/
theorem valuesOf_eq_nil {name : String} {members : Members}
    (fresh : ∀ member ∈ members, member.1 ≠ name) :
    valuesOf name (members.map memberOfJson) = [] := by
  rw [valuesOf_map_memberOfJson, List.map_eq_nil_iff, List.filter_eq_nil_iff]
  exact fun member found => by simpa using fresh member found

/-- The value of a member that was set under a new name is the only one given for the name. -/
theorem valuesOf_insert_of_fresh {name : String} {value : Json} {members : Members}
    (fresh : ∀ member ∈ members, member.1 ≠ name) :
    valuesOf name ((members.insert name value).map memberOfJson) = [value.reserved] := by
  rw [valuesOf_map_memberOfJson, Members.filter_insert_of_fresh fresh, List.map_singleton]

/-- Setting a member gives no values for other names. -/
theorem valuesOf_insert_of_ne {name other : String} {value : Json} {members : Members}
    (different : other ≠ name) :
    valuesOf name ((members.insert other value).map memberOfJson) =
      valuesOf name (members.map memberOfJson) := by
  have same : (members.insert other value).filter (·.1 = name) = members.filter (·.1 = name) :=
    Members.filter_insert_of_not (· = name) different
  rw [valuesOf_map_memberOfJson, valuesOf_map_memberOfJson, same]

/-- Setting a reserved member changes no other member. -/
theorem plainMembers_insert_of_reserved {name : String} {value : Json} {members : Members}
    (reserved : IsReserved name) :
    plainMembers ((members.insert name value).map memberOfJson) =
      plainMembers (members.map memberOfJson) := by
  have same : (members.insert name value).filter (¬ IsReserved ·.1) =
      members.filter (¬ IsReserved ·.1) :=
    Members.filter_insert_of_not (¬ IsReserved ·) (not_not_intro reserved)
  rw [plainMembers_map_memberOfJson, plainMembers_map_memberOfJson, same]

namespace Spelled

variable (spelled : rule.Spelled)
include spelled

/-- No field bears a reserved name. -/
theorem fresh {name : String} (reserved : IsReserved name) :
    ∀ field ∈ rule.fields, field.1 ≠ name :=
  fun field found same => spelled.unreserved field found (same ▸ reserved)

/-- The release that is shown is taken for the release. -/
theorem takes_release :
    Takes releaseOf none (valuesOf "release" (rule.shown.map memberOfJson))
      (some rule.release) := by
  -- The flag is set before the release, so it may stand among the members the release is added to.
  have fresh : ∀ member ∈ rule.flagged, member.1 ≠ "release" := by
    intro member found
    rw [flagged] at found
    split at found
    · rcases Members.eq_or_mem_of_mem_insert found with rfl | field
      · exact by decide
      · exact spelled.fresh (.inl rfl) member field
    · exact spelled.fresh (.inl rfl) member found
  rw [shown, valuesOf_insert_of_fresh fresh]
  refine .once ?_
  have nonempty := spelled.named
  rw [shownRelease]
  cases release : rule.release with
  | none => rfl
  | some text =>
    have different : text ≠ "" := fun empty => nonempty (empty ▸ release)
    exact congrArg Except.ok (if_neg different)

/-- The flag that is shown, if it is, is taken for the flag. -/
theorem takes_breaking :
    ∃ breaking, Takes breakingOf none (valuesOf "breaking" (rule.shown.map memberOfJson)) breaking ∧
      breaking.getD false = rule.breaking := by
  have fresh := spelled.fresh (.inr rfl)
  have different : "release" ≠ "breaking" := by decide
  rw [shown, valuesOf_insert_of_ne different, flagged]
  cases rule.breaking with
  | false => exact ⟨none, valuesOf_eq_nil fresh ▸ .absent none, rfl⟩
  | true => exact ⟨some true, valuesOf_insert_of_fresh fresh ▸ .once rfl, rfl⟩

/-- The other members that are shown are the fields. -/
theorem plainMembers_shown : plainMembers (rule.shown.map memberOfJson) = rule.fields := by
  have unflagged : plainMembers (rule.flagged.map memberOfJson) =
      plainMembers (rule.fields.map memberOfJson) := by
    rw [flagged]
    split
    · exact plainMembers_insert_of_reserved (.inr rfl)
    · rfl
  have unreserved : rule.fields.filter (¬ IsReserved ·.1) = rule.fields :=
    List.filter_eq_self.mpr fun field found => by simpa using spelled.unreserved field found
  have same : ∀ field ∈ rule.fields, (field.1, field.2.normalize) = field := fun field found =>
    congrArg (Prod.mk field.1) (Json.normalize_of_normal (spelled.normal field found))
  rw [shown, plainMembers_insert_of_reserved (.inl rfl), unflagged, plainMembers_map_memberOfJson,
    unreserved, List.map_congr_left same, List.map_id']

/-- **The members that are shown spell the rule.** -/
theorem ofMembers_shown : ofMembers (rule.shown.map memberOfJson) = .ok rule := by
  obtain ⟨breaking, takesBreaking, same⟩ := spelled.takes_breaking
  refine ofMembers_eq_ok_iff.mpr ⟨_, breaking, spelled.takes_release, takesBreaking, ?_⟩
  rw [spelled.plainMembers_shown, Members.ofList_of_increasing spelled.increasing, same]
  rfl

end Spelled

/-! ## The round trip -/

/-- No floating-point number occurs in the fields. -/
def FloatFree (rule : Rule) : Prop := ∀ field ∈ rule.fields, field.2.Each (¬ ·.IsFloat)

instance (rule : Rule) : Decidable rule.FloatFree :=
  inferInstanceAs (Decidable (∀ field ∈ rule.fields, field.2.Each (¬ ·.IsFloat)))

/-- The display of a rule as reading leaves it spells the rule. -/
theorem Spelled.ofText_display (spelled : rule.Spelled) (floatFree : rule.FloatFree) :
    ofText rule.display = .ok rule :=
  ofText_eq_ok_iff.mpr ⟨rule.shown,
    Json.readMembers_compact (spelled.each_toValue floatFree) spelled.depth_toValue_le,
    spelled.ofMembers_shown⟩

/-- **The display of a rule that was read is a text of the rule again, and of no other rule.** -/
theorem display_spells_rule (read : ofText text = .ok rule) (floatFree : rule.FloatFree) :
    Json.read rule.display = some rule.toValue ∧ ofText rule.display = .ok rule ∧
      ∀ {other : Rule} {otherText : String}, ofText otherText = .ok other → other.FloatFree →
        other.display = rule.display → other = rule := by
  have spelled := spelled_of_ofText read
  have again := spelled.ofText_display floatFree
  refine ⟨Json.read_compact (spelled.each_toValue floatFree) spelled.depth_toValue_le
    spelled.normal_toValue, again, ?_⟩
  intro other otherText otherRead otherFree same
  have otherAgain := (spelled_of_ofText otherRead).ofText_display otherFree
  rw [same, again] at otherAgain
  exact (Except.ok.inj otherAgain).symm

/-- Members of a rule out of order, with quotes and a line break, a control character and the
greatest whole number. -/
def scopedMembers : List (String × Json) :=
  [ ("type", .ofString "fe\"at\n"),
    ("release", .ofString "minor"),
    ("scope", .array [.scalar .null, .scalar (.number (.int (-7))),
      .object [("b", .scalar (.number (.int 18446744073709551615))), ("a", .ofString "é\u0001")]]),
    ("breaking", .scalar (.bool true)) ]

/-- A text with these members. -/
def scopedText : String :=
  "\x7b\"type\":\"fe\\\"at\\n\",\"release\":\"minor\",\"scope\":[null,-7,"
    ++ "\x7b\"b\":18446744073709551615,\"a\":\"é\\u0001\"\x7d],\"breaking\":true\x7d"

/-- The rule of these members. -/
def scopedRule : Rule :=
  ⟨some "minor", true,
    [ ("scope", .array [.scalar .null, .scalar (.number (.int (-7))),
        .object [("a", .ofString "é\u0001"),
          ("b", .scalar (.number (.int 18446744073709551615)))]]),
      ("type", .ofString "fe\"at\n") ]⟩

/-- The rule is read from the text and from its display, which is another text. -/
theorem display_spells_rule_scopedRule :
    ofText scopedText = .ok scopedRule ∧ scopedRule.FloatFree ∧
      scopedRule.display =
        "\x7b\"breaking\":true,\"release\":\"minor\",\"scope\":[null,-7,"
          ++ "\x7b\"a\":\"é\\u0001\",\"b\":18446744073709551615\x7d],"
          ++ "\"type\":\"fe\\\"at\\n\"\x7d" ∧
      ofText scopedRule.display = .ok scopedRule := by
  have written : scopedText = (Json.object scopedMembers).compact := by cbv
  have members : Json.readMembers scopedText = (scopedMembers, true) :=
    written ▸ Json.readMembers_compact (by decide) (by decide)
  have read : ofText scopedText = .ok scopedRule :=
    ofText_eq_ok_iff.mpr ⟨scopedMembers, members, rfl⟩
  have floatFree : scopedRule.FloatFree := by decide
  exact ⟨read, floatFree, by cbv, (display_spells_rule read floatFree).2.1⟩

end Rule
end ReleaseAnalysis
