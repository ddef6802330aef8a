import ReleaseAnalysis.Json.Reader
import ReleaseAnalysis.Proofs.Json.Normal
import ReleaseAnalysis.Proofs.Json.Scalars

/-!
# What a reader delivers

Whatever text is read, the values that are delivered keep within two bounds. A whole number fits 64
bits, since a literal that does not is read as a floating-point number. And a value with the arrays
and objects that are open around it is never nested beyond the limit.

Both bounds are kept by every token that is read (`Reading.Sound.step`), hence by a whole run
(`Reading.Sound.run`) and by the members of the object that a text spells
(`Json.sits_of_readMembers`).
-/

set_option autoImplicit false

namespace ReleaseAnalysis

/-! ## Numbers -/

namespace NumberLiteral

theorem gather_le {significand : Nat} (small : significand ≤ significandMax) (found : List Char) :
    (gather significand found).1 ≤ significandMax := by
  induction found generalizing significand with
  | nil => exact small
  | cons digit rest ih =>
    rw [gather]
    split
    · exact ih ‹_›
    · exact small

/-- A whole number that is read fits 64 bits. -/
theorem fits_of_wholeValue {negative : Bool} {significand : Nat} {number : Number}
    (small : significand ≤ significandMax)
    (found : wholeValue negative significand = some number) : (Scalar.number number).Fits := by
  have low : (0 : Int) ≤ negativeMax := Int.natCast_nonneg _
  unfold wholeValue at found
  split at found
  · cases found
    exact ⟨by omega, by omega⟩
  · split at found
    · obtain ⟨_, _, rfl⟩ := Option.map_eq_some_iff.mp found
      exact trivial
    · cases found
      exact ⟨by omega, by omega⟩

theorem fits_of_value {literal : NumberLiteral} {number : Number}
    (found : literal.value = some number) : (Scalar.number number).Fits := by
  have small := gather_le (Nat.zero_le significandMax) literal.whole
  cases gathered : gather 0 literal.whole with
  | mk significand dropped =>
    rw [gathered] at small
    simp only [value, gathered] at found
    split at found
    · exact fits_of_wholeValue small found
    · obtain ⟨_, _, rfl⟩ := Option.map_eq_some_iff.mp found
      exact trivial

end NumberLiteral

namespace Token

/-- A token whose scalar, if it is one, fits. -/
def Fits : Token → Prop
  | scalar value => value.Fits
  | _ => True

theorem fits_of_read {input rest : List Char} {token : Token}
    (found : Token.read input = some (token, rest)) : token.Fits := by
  unfold Token.read at found
  split at found
  case h_10 =>
    obtain ⟨_, _, same⟩ := Option.map_eq_some_iff.mp found
    cases same
    exact trivial
  case h_11 =>
    obtain ⟨⟨literal, others⟩, _, found⟩ := Option.bind_eq_some_iff.mp found
    obtain ⟨number, yields, same⟩ := Option.map_eq_some_iff.mp found
    cases same
    exact NumberLiteral.fits_of_value yields
  all_goals
    cases found
    exact trivial

/-- The tokens of every text fit. -/
theorem fits_of_mem_list {input : List Char} {token : Token} (found : token ∈ list input) :
    token.Fits := by
  fun_induction list input with
  | case1 => cases found
  | case2 =>
    cases List.mem_singleton.mp found
    exact trivial
  | case3 input next others _ first rest read ih =>
    rcases List.mem_cons.mp found with rfl | later
    · exact fits_of_read read
    · exact ih later

end Token

/-! ## Values in their places -/

namespace Json

variable {value : Json} {items : List Json} {members : List (String × Json)} {level : Nat}

/-- A value with so many arrays and objects around it keeps within the bounds. -/
structure Sits (level : Nat) (value : Json) : Prop where
  fits : value.Each Scalar.Fits
  shallow : level + value.depth ≤ nestingLimit

theorem sits_array (room : level < nestingLimit) (all : ∀ item ∈ items, Sits (level + 1) item) :
    Sits level (.array items) := by
  refine ⟨.array fun item found => (all item found).fits, ?_⟩
  have inner : itemsDepth items ≤ nestingLimit - (level + 1) :=
    itemsDepth_le_iff.mpr fun item found => by
      have := (all item found).shallow
      omega
  rw [depth]
  omega

theorem sits_object (room : level < nestingLimit)
    (all : ∀ member ∈ members, Sits (level + 1) member.2) : Sits level (.object members) := by
  refine ⟨.object fun member found => (all member found).fits, ?_⟩
  have inner : membersDepth members ≤ nestingLimit - (level + 1) :=
    membersDepth_le_iff.mpr fun member found => by
      have := (all member found).shallow
      omega
  rw [depth]
  omega

/-- The values of an object's members sit one level deeper. -/
theorem Sits.member {member : String × Json} (sits : Sits level (.object members))
    (found : member ∈ members) : Sits (level + 1) member.2 := by
  refine ⟨each_object_iff.mp sits.fits member found, ?_⟩
  have inner := membersDepth_le_iff.mp (Nat.le_refl _) member found
  have := sits.shallow
  rw [depth] at this
  omega

/-- Normalization keeps a value within the bounds. -/
theorem Sits.normalize (sits : Sits level value) : Sits level value.normalize :=
  ⟨sits.fits.normalize, Nat.le_trans (Nat.add_le_add_left (depth_normalize_le value) level)
    sits.shallow⟩

/-! ## Open contexts -/

/-- The values that stand before the hole. -/
def Frame.parts : Frame → List Json
  | .item before => before
  | .member before _ => before.map Prod.snd

/-- An open context within the limit whose values all keep within the bounds. -/
def SoundContext : List Frame → Prop
  | [] => True
  | frame :: outer =>
    outer.length < nestingLimit ∧ (∀ part ∈ frame.parts, Sits (outer.length + 1) part) ∧
      SoundContext outer

namespace Reading

variable {reading next : Reading} {token : Token} {context : List Frame}

/-- What is open, an array or object that was just opened and a name that was just read
included. -/
def frames : Reading → List Frame
  | atValue context => context
  | atFirstItem context => .item [] :: context
  | atFirstName context => .member [] "" :: context
  | atName before context => .member before "" :: context
  | atColon before name context => .member before name :: context
  | afterValue _ context => context

/-- The value that was just completed. -/
def complete? : Reading → Option Json
  | afterValue value _ => some value
  | _ => none

/-- Everything that has been read keeps within the bounds. -/
structure Sound (reading : Reading) : Prop where
  context : SoundContext reading.frames
  complete : ∀ value ∈ reading.complete?, Sits reading.frames.length value

/-- Where no value was just completed only the open context counts. -/
theorem sound_of_incomplete (context : SoundContext reading.frames)
    (incomplete : reading.complete? = none) : reading.Sound := by
  refine ⟨context, fun value complete => ?_⟩
  rw [incomplete] at complete
  cases complete

/-- An open context leaves the limit alone. -/
theorem length_le_of_soundContext (sound : SoundContext context) :
    context.length ≤ nestingLimit := by
  cases context with
  | nil => exact Nat.zero_le _
  | cons frame outer => exact sound.1

/-- A value that begins keeps to the bounds. -/
theorem sound_of_begin (sound : SoundContext context) (fits : token.Fits)
    (read : Reading.begin context token = some next) : next.Sound := by
  unfold Reading.begin at read
  split at read
  · cases read
    refine ⟨sound, fun value complete => ?_⟩
    cases complete
    exact ⟨.scalar fits, length_le_of_soundContext sound⟩
  · split at read
    · cases read
      exact sound_of_incomplete ⟨‹_›, List.forall_mem_nil _, sound⟩ rfl
    · cases read
  · split at read
    · cases read
      exact sound_of_incomplete ⟨‹_›, List.forall_mem_nil _, sound⟩ rfl
    · cases read
  · cases read

/-- **One token keeps everything that has been read within the bounds.** -/
theorem Sound.step (sound : reading.Sound) (fits : token.Fits)
    (read : reading.step token = some next) : next.Sound := by
  obtain ⟨context, complete⟩ := sound
  unfold Reading.step at read
  split at read
  case h_1 => exact sound_of_begin context fits read
  case h_2 =>
    cases read
    refine ⟨context.2.2, fun value same => ?_⟩
    cases same
    exact sits_array context.1 (List.forall_mem_nil _)
  case h_3 => exact sound_of_begin context fits read
  case h_4 =>
    cases read
    refine ⟨context.2.2, fun value same => ?_⟩
    cases same
    exact sits_object context.1 (List.forall_mem_nil _)
  case h_5 =>
    cases read
    exact sound_of_incomplete context rfl
  case h_6 =>
    cases read
    exact sound_of_incomplete context rfl
  case h_7 =>
    cases read
    exact sound_of_incomplete context rfl
  case h_8 =>
    cases read
    have sits := complete _ rfl
    exact sound_of_incomplete
      ⟨context.1, List.forall_mem_cons.mpr ⟨sits, context.2.1⟩, context.2.2⟩ rfl
  -- The array or object that is closed leaves its frame and sits one level higher than its parts.
  case h_9 =>
    cases read
    have sits := complete _ rfl
    refine ⟨context.2.2, fun value same => ?_⟩
    cases same
    refine sits_array context.1 fun item found => ?_
    exact List.forall_mem_cons.mpr ⟨sits, context.2.1⟩ item (List.mem_reverse.mp found)
  case h_10 =>
    cases read
    have sits := complete _ rfl
    exact sound_of_incomplete
      ⟨context.1, List.forall_mem_cons.mpr ⟨sits, context.2.1⟩, context.2.2⟩ rfl
  case h_11 =>
    cases read
    have sits := complete _ rfl
    refine ⟨context.2.2, fun value same => ?_⟩
    cases same
    refine sits_object context.1 fun member found => ?_
    rcases List.mem_cons.mp (List.mem_reverse.mp found) with rfl | before
    · exact sits
    · exact context.2.1 _ (List.mem_map_of_mem before)
  case h_12 => cases read

/-- **A run keeps everything that has been read within the bounds.** -/
theorem Sound.run (sound : reading.Sound) {tokens : List Token}
    (fits : ∀ token ∈ tokens, token.Fits) : (reading.run tokens).1.Sound := by
  induction tokens generalizing reading with
  | nil => exact sound
  | cons token rest ih =>
    obtain ⟨first, later⟩ := List.forall_mem_cons.mp fits
    rw [Reading.run]
    split
    · rename_i next read
      exact ih (sound.step first read) later
    · exact sound

end Reading

/-! ## Whole texts -/

theorem sound_reading (text : String) : (reading text).1.Sound := by
  have start : (Reading.atValue []).Sound := Reading.sound_of_incomplete trivial rfl
  exact start.run fun _ found => Token.fits_of_mem_list found

/-- The values of the members of an object that a text spells sit at the first level. -/
theorem sits_of_readMembers {text : String} (spelled : readMembers text = (members, true)) :
    ∀ member ∈ members, Sits 1 member.2 := by
  have sound := sound_reading text
  unfold readMembers at spelled
  split at spelled
  · rename_i found complete same
    cases spelled
    rw [same] at sound
    exact fun member inside => (sound.complete _ rfl).member inside
  · cases spelled

/-- The value that a text spells keeps within the bounds. -/
theorem sits_of_read {text : String} (spelled : read text = some value) : Sits 0 value := by
  have sound := sound_reading text
  obtain ⟨written, found, rfl⟩ := Option.map_eq_some_iff.mp spelled
  unfold readWritten at found
  split at found
  · rename_i same
    cases found
    rw [same] at sound
    exact (sound.complete _ rfl).normalize
  · cases found

theorem normal_of_read {text : String} (spelled : read text = some value) : value.Normal := by
  obtain ⟨written, _, rfl⟩ := Option.map_eq_some_iff.mp spelled
  exact normal_normalize written

end Json
end ReleaseAnalysis
