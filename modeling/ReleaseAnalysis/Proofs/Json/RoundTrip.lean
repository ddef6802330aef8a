import ReleaseAnalysis.Json.Reader
import ReleaseAnalysis.Proofs.Json.Normal
import ReleaseAnalysis.Proofs.Json.Scalars

/-!
# Values are read back from their compact text

The compact text of a value is the text of a list of tokens (`Json.tokens`). Cutting the text
yields these tokens (`Json.isCut`), and reading them in an open context leads behind the value
(`Json.isRead`), provided the context leaves room for the depth of the value.

So a value of exact scalars that is not nested beyond the limit is read back from its compact text
as it was (`Json.reading_compact`), and if it is normal it is also what the text spells in normal
form (`Json.read_compact`).
-/

set_option autoImplicit false

namespace ReleaseAnalysis
namespace Json

open Reading (atValue atFirstItem atFirstName atName atColon afterValue)

variable {value item : Json} {items : List Json} {members : List (String × Json)}
  {context : List Frame} {rest : List Token}

/-! ## The tokens of a value -/

mutual

/-- The tokens of the compact text of a value. -/
def tokens : Json → List Token
  | .scalar value => [.scalar value]
  | .array items => .openArray :: itemsTokens items
  | .object members => .openObject :: membersTokens members

/-- The tokens of items and of the bracket that closes them. -/
def itemsTokens : List Json → List Token
  | [] => [.closeArray]
  | item :: rest => tokens item ++ moreItemsTokens rest

/-- The tokens of the items after the first, each behind a comma. -/
def moreItemsTokens : List Json → List Token
  | [] => [.closeArray]
  | item :: rest => .comma :: tokens item ++ moreItemsTokens rest

/-- The tokens of members and of the brace that closes them. -/
def membersTokens : List (String × Json) → List Token
  | [] => [.closeObject]
  | (name, value) :: rest =>
    .scalar (.string name) :: .colon :: tokens value ++ moreMembersTokens rest

/-- The tokens of the members after the first, each behind a comma. -/
def moreMembersTokens : List (String × Json) → List Token
  | [] => [.closeObject]
  | (name, value) :: rest =>
    .comma :: .scalar (.string name) :: .colon :: tokens value ++ moreMembersTokens rest

end

/-! ## Cutting the text -/

/-- The compact text of a value is cut into its tokens wherever nothing continues a number behind
it. -/
def IsCut (value : Json) : Prop :=
  ∀ rest, EndsNumber rest → Token.list (value.text ++ rest) = value.tokens ++ Token.list rest

theorem endsNumber_cons {char : Char} {text : List Char} (closing : char ∈ [',', ']', '}']) :
    EndsNumber (char :: text) := by
  intro first found
  cases found
  simp only [List.mem_cons, List.not_mem_nil, or_false] at closing
  rcases closing with rfl | rfl | rfl <;> decide

theorem endsNumber_moreItemsText (items : List Json) (text : List Char) :
    EndsNumber (moreItemsText items ++ text) := by
  cases items with
  | nil => exact endsNumber_cons (by decide)
  | cons item others => exact endsNumber_cons (by decide)

theorem endsNumber_moreMembersText (members : List (String × Json)) (text : List Char) :
    EndsNumber (moreMembersText members ++ text) := by
  cases members with
  | nil => exact endsNumber_cons (by decide)
  | cons member others => exact endsNumber_cons (by decide)

theorem list_moreItemsText (cut : ∀ item ∈ items, item.IsCut) (text : List Char) :
    Token.list (moreItemsText items ++ text) = moreItemsTokens items ++ Token.list text := by
  induction items with
  | nil => exact Token.list_closeArray text
  | cons item others ih =>
    obtain ⟨first, later⟩ := List.forall_mem_cons.mp cut
    simp only [moreItemsText, moreItemsTokens, List.cons_append, List.append_assoc]
    rw [Token.list_comma, first _ (endsNumber_moreItemsText others text), ih later]

theorem list_moreMembersText (cut : ∀ member ∈ members, member.2.IsCut) (text : List Char) :
    Token.list (moreMembersText members ++ text) =
      moreMembersTokens members ++ Token.list text := by
  induction members with
  | nil => exact Token.list_closeObject text
  | cons member others ih =>
    obtain ⟨first, later⟩ := List.forall_mem_cons.mp cut
    simp only [moreMembersText, moreMembersTokens, List.cons_append, List.append_assoc]
    rw [Token.list_comma, Token.list_quote, Token.list_colon,
      first _ (endsNumber_moreMembersText others text), ih later]

/-- **The compact text of a value is cut into its tokens.** -/
theorem isCut (whole : value.Each Scalar.IsExact) : value.IsCut := by
  induction whole with
  | scalar holds => exact fun rest ends => Token.list_text holds ends
  | @array items _ ih =>
    intro text _
    cases items with
    | nil => exact (Token.list_openArray _).trans (congrArg _ (Token.list_closeArray text))
    | cons item others =>
      obtain ⟨first, later⟩ := List.forall_mem_cons.mp ih
      simp only [Json.text, itemsText, tokens, itemsTokens, List.cons_append, List.append_assoc]
      rw [Token.list_openArray, first _ (endsNumber_moreItemsText others text),
        list_moreItemsText later]
  | @object members _ ih =>
    intro text _
    cases members with
    | nil => exact (Token.list_openObject _).trans (congrArg _ (Token.list_closeObject text))
    | cons member others =>
      obtain ⟨first, later⟩ := List.forall_mem_cons.mp ih
      simp only [Json.text, membersText, tokens, membersTokens, List.cons_append,
        List.append_assoc]
      rw [Token.list_openObject, Token.list_quote, Token.list_colon,
        first _ (endsNumber_moreMembersText others text), list_moreMembersText later]

/-! ## Reading the tokens -/

/-- The tokens of a value, read in a context that leaves room for it, lead behind the value. -/
def IsRead (value : Json) : Prop :=
  ∀ context rest, context.length + value.depth ≤ nestingLimit →
    (atValue context).run (value.tokens ++ rest) = (afterValue value context).run rest

theorem run_of_step {reading next : Reading} {token : Token}
    (read : reading.step token = some next) : reading.run (token :: rest) = next.run rest := by
  rw [Reading.run, read]

/-- Where a value may begin an array may be opened. -/
theorem run_openArray {reading : Reading}
    (begins : reading.step .openArray = Reading.begin context .openArray)
    (room : context.length < nestingLimit) :
    reading.run (.openArray :: rest) = (atFirstItem context).run rest :=
  run_of_step (begins.trans (if_pos room))

/-- Where a value may begin an object may be opened. -/
theorem run_openObject {reading : Reading}
    (begins : reading.step .openObject = Reading.begin context .openObject)
    (room : context.length < nestingLimit) :
    reading.run (.openObject :: rest) = (atFirstName context).run rest :=
  run_of_step (begins.trans (if_pos room))

/-- The first item of an array is read as any other. -/
theorem run_atFirstItem (room : context.length + 1 + item.depth ≤ nestingLimit) :
    (atFirstItem context).run (item.tokens ++ rest) =
      (atValue (.item [] :: context)).run (item.tokens ++ rest) := by
  cases item with
  | scalar found => rfl
  | array items =>
    have inner : (Frame.item [] :: context).length < nestingLimit := by
      rw [depth] at room
      rw [List.length_cons]
      omega
    exact (run_openArray rfl inner).trans (run_openArray rfl inner).symm
  | object members =>
    have inner : (Frame.item [] :: context).length < nestingLimit := by
      rw [depth] at room
      rw [List.length_cons]
      omega
    exact (run_openObject rfl inner).trans (run_openObject rfl inner).symm

theorem run_moreItems {before : List Json} (read : ∀ item ∈ items, item.IsRead)
    (room : ∀ item ∈ items, context.length + 1 + item.depth ≤ nestingLimit) :
    (afterValue item (.item before :: context)).run (moreItemsTokens items ++ rest) =
      (afterValue (.array (before.reverse ++ item :: items)) context).run rest := by
  -- The items that were read stand in the frame the last one first, so the frame varies.
  induction items generalizing before item with
  | nil =>
    rw [moreItemsTokens, List.singleton_append, run_of_step rfl, List.reverse_cons]
  | cons next others ih =>
    obtain ⟨first, later⟩ := List.forall_mem_cons.mp read
    obtain ⟨fits, othersFit⟩ := List.forall_mem_cons.mp room
    simp only [moreItemsTokens, List.cons_append, List.append_assoc]
    rw [run_of_step rfl, first (.item (item :: before) :: context) _ fits, ih later othersFit,
      List.reverse_cons, List.append_assoc, List.singleton_append]

theorem run_moreMembers {before : List (String × Json)} {name : String}
    (read : ∀ member ∈ members, member.2.IsRead)
    (room : ∀ member ∈ members, context.length + 1 + member.2.depth ≤ nestingLimit) :
    (afterValue item (.member before name :: context)).run (moreMembersTokens members ++ rest) =
      (afterValue (.object (before.reverse ++ (name, item) :: members)) context).run rest := by
  induction members generalizing before name item with
  | nil =>
    rw [moreMembersTokens, List.singleton_append, run_of_step rfl, List.reverse_cons]
  | cons next others ih =>
    obtain ⟨first, later⟩ := List.forall_mem_cons.mp read
    obtain ⟨fits, othersFit⟩ := List.forall_mem_cons.mp room
    simp only [moreMembersTokens, List.cons_append, List.append_assoc]
    rw [run_of_step rfl, run_of_step rfl, run_of_step rfl,
      first (.member ((name, item) :: before) next.1 :: context) _ fits, ih later othersFit,
      List.reverse_cons, List.append_assoc, List.singleton_append]

/-- **Reading the tokens of a value leads behind the value.** -/
theorem isRead (value : Json) : value.IsRead := by
  induction value with
  | scalar found => exact fun context rest _ => run_of_step rfl
  | array items ih =>
    intro context rest room
    rw [depth] at room
    have opened : context.length < nestingLimit := by omega
    have inner : ∀ item ∈ items, context.length + 1 + item.depth ≤ nestingLimit := by
      intro item found
      have := itemsDepth_le_iff.mp (Nat.le_refl _) item found
      omega
    rw [tokens, List.cons_append, run_openArray rfl opened]
    cases items with
    | nil => exact run_of_step rfl
    | cons item others =>
      obtain ⟨first, later⟩ := List.forall_mem_cons.mp ih
      obtain ⟨fits, othersFit⟩ := List.forall_mem_cons.mp inner
      rw [itemsTokens, List.append_assoc, run_atFirstItem fits, first (.item [] :: context) _ fits,
        run_moreItems later othersFit]
      rfl
  | object members ih =>
    intro context rest room
    rw [depth] at room
    have opened : context.length < nestingLimit := by omega
    have inner : ∀ member ∈ members, context.length + 1 + member.2.depth ≤ nestingLimit := by
      intro member found
      have := membersDepth_le_iff.mp (Nat.le_refl _) member found
      omega
    rw [tokens, List.cons_append, run_openObject rfl opened]
    cases members with
    | nil => exact run_of_step rfl
    | cons member others =>
      obtain ⟨first, later⟩ := List.forall_mem_cons.mp ih
      obtain ⟨fits, othersFit⟩ := List.forall_mem_cons.mp inner
      simp only [membersTokens, List.cons_append, List.append_assoc]
      rw [run_of_step rfl, run_of_step rfl, first (.member [] member.1 :: context) _ fits,
        run_moreMembers later othersFit]
      rfl

/-! ## Whole texts -/

/-- **A value is read from its compact text.** -/
theorem reading_compact (whole : value.Each Scalar.IsExact) (shallow : value.depth ≤ nestingLimit) :
    reading value.compact = (afterValue value [], true) := by
  have cut : Token.list value.compact.toList = value.tokens := by
    have ends : EndsNumber [] := fun _ found => nomatch found
    rw [compact, String.toList_ofList, ← List.append_nil value.text, isCut whole [] ends,
      Token.list_nil, List.append_nil]
  have read := isRead value [] [] (by simpa using shallow)
  rw [reading, cut]
  rwa [List.append_nil] at read

/-- The compact text of a value spells the value as it is written. -/
theorem readWritten_compact (whole : value.Each Scalar.IsExact)
    (shallow : value.depth ≤ nestingLimit) : readWritten value.compact = some value := by
  rw [readWritten, reading_compact whole shallow]

/-- **A normal value is what its compact text spells.** -/
theorem read_compact (whole : value.Each Scalar.IsExact) (shallow : value.depth ≤ nestingLimit)
    (normal : value.Normal) : read value.compact = some value := by
  rw [read, readWritten_compact whole shallow, Option.map_some, normalize_of_normal normal]

/-- The members of an object are read from its compact text. -/
theorem readMembers_compact (whole : (object members).Each Scalar.IsExact)
    (shallow : (object members).depth ≤ nestingLimit) :
    readMembers (object members).compact = (members, true) := by
  rw [readMembers, reading_compact whole shallow]

end Json
end ReleaseAnalysis
