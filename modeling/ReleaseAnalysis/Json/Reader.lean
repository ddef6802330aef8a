import ReleaseAnalysis.Json.Token

/-!
# Reading a document

A document is read token by token. What has been read so far is kept as a value with a hole: the
innermost open array or object first, each with the part of it that stands before the hole. At
most 127 arrays and objects may be open at a time.

Reading stops at the first token that cannot stand where it stands. The members of an outermost
object that were complete by then are still known (`topMembers`), since a rule may be refused for
one of them before the fault in the text is reached.
-/

set_option autoImplicit false

namespace ReleaseAnalysis

namespace Json

/-- The greatest number of arrays and objects that may be open at a time. -/
def nestingLimit : Nat := 127

/-- An open array or object: what stands before the hole, the last item or member first. -/
inductive Frame
  | item (before : List Json)
  | member (before : List (String × Json)) (name : String)

/-- What has been read of a document, and with that what may come next. -/
inductive Reading
  /-- A value must come. -/
  | atValue (context : List Frame)
  /-- An array was opened: a value or the end of the array. -/
  | atFirstItem (context : List Frame)
  /-- An object was opened: a name or the end of the object. -/
  | atFirstName (context : List Frame)
  /-- After a comma in an object: a name. -/
  | atName (before : List (String × Json)) (context : List Frame)
  /-- After a name: a colon. -/
  | atColon (before : List (String × Json)) (name : String) (context : List Frame)
  /-- A value is complete: a comma or the end of what contains it. -/
  | afterValue (value : Json) (context : List Frame)

namespace Reading

/-- Reads the first token of a value. -/
def begin (context : List Frame) : Token → Option Reading
  | .scalar value => some (afterValue (.scalar value) context)
  | .openArray => if context.length < nestingLimit then some (atFirstItem context) else none
  | .openObject => if context.length < nestingLimit then some (atFirstName context) else none
  | _ => none

/-- Reads one token, if it may stand here. -/
def step : Reading → Token → Option Reading
  | atValue context, token => begin context token
  | atFirstItem context, .closeArray => some (afterValue (.array []) context)
  | atFirstItem context, token => begin (.item [] :: context) token
  | atFirstName context, .closeObject => some (afterValue (.object []) context)
  | atFirstName context, .scalar (.string found) => some (atColon [] found context)
  | atName before context, .scalar (.string found) => some (atColon before found context)
  | atColon before found context, .colon => some (atValue (.member before found :: context))
  | afterValue item (.item before :: context), .comma =>
    some (atValue (.item (item :: before) :: context))
  | afterValue item (.item before :: context), .closeArray =>
    some (afterValue (.array (item :: before).reverse) context)
  | afterValue item (.member before found :: context), .comma =>
    some (atName ((found, item) :: before) context)
  | afterValue item (.member before found :: context), .closeObject =>
    some (afterValue (.object ((found, item) :: before).reverse) context)
  | _, _ => none

/-- Reads tokens as long as they may stand where they stand; also says whether all could. -/
def run (reading : Reading) : List Token → Reading × Bool
  | [] => (reading, true)
  | token :: rest =>
    match reading.step token with
    | some next => next.run rest
    | none => (reading, false)

/-- The complete members of the outermost object of an open context, in the order written. -/
def contextMembers (context : List Frame) : List (String × Json) :=
  match context.getLast? with
  | some (.member before _) => before.reverse
  | _ => []

/-- The complete members of the outermost object, in the order written. -/
def topMembers : Reading → List (String × Json)
  | atValue context => contextMembers context
  | atFirstItem context => contextMembers context
  | atFirstName context => contextMembers context
  | atName before [] => before.reverse
  | atName _ context => contextMembers context
  | atColon before _ [] => before.reverse
  | atColon _ _ context => contextMembers context
  | afterValue (.object members) [] => members
  | afterValue item [.member before found] => ((found, item) :: before).reverse
  | afterValue _ context => contextMembers context

end Reading

/-- What was read of a text, and whether nothing stood in the way. -/
def reading (text : String) : Reading × Bool :=
  (Reading.atValue []).run (Token.list text.toList)

/-- The value a text spells, its objects as they are written. -/
def readWritten (text : String) : Option Json :=
  match reading text with
  | (.afterValue value [], true) => some value
  | _ => none

/-- The value a text spells, in normal form. -/
def read (text : String) : Option Json := (readWritten text).map normalize

/-- The members of the object that a text spells, as they are written, up to the first fault in
the text; and whether the text spells an object. -/
def readMembers (text : String) : List (String × Json) × Bool :=
  match reading text with
  | (.afterValue (.object members) [], complete) => (members, complete)
  | (reading, _) => (reading.topMembers, false)

end Json

end ReleaseAnalysis
