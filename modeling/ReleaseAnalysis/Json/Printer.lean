import ReleaseAnalysis.Json.Basic

/-!
# Compact text

The compact text of a value has no blanks. In a string only the quotation mark, the backslash and
the characters below U+0020 are escaped; five of the latter have a short escape and the others are
written with four hexadecimal digits.

A pattern that is a regular expression is searched in the search text of a value instead: the
string itself without quotation marks, the search texts of an array's items joined by commas, and
the compact text of everything else.
-/

set_option autoImplicit false

namespace ReleaseAnalysis

namespace Json

/-- How a character is written inside a quoted string. -/
def escapeChar (c : Char) : List Char :=
  match c with
  | '"' => ['\\', '"']
  | '\\' => ['\\', '\\']
  | '\x08' => ['\\', 'b']
  | '\x0c' => ['\\', 'f']
  | '\n' => ['\\', 'n']
  | '\r' => ['\\', 'r']
  | '\t' => ['\\', 't']
  | c =>
    if c.toNat < 0x20 then
      ['\\', 'u', '0', '0', Nat.digitChar (c.toNat / 16), Nat.digitChar (c.toNat % 16)]
    else [c]

/-- A string between quotation marks. -/
def quote (text : String) : List Char := '"' :: text.toList.flatMap escapeChar ++ ['"']

end Json

/-- The compact text of a scalar. -/
def Scalar.text : Scalar → List Char
  | .null => ['n', 'u', 'l', 'l']
  | .bool true => ['t', 'r', 'u', 'e']
  | .bool false => ['f', 'a', 'l', 's', 'e']
  | .number value => value.text
  | .string value => Json.quote value

namespace Json

mutual

/-- The compact text of a value. -/
def text : Json → List Char
  | .scalar value => value.text
  | .array items => '[' :: itemsText items
  | .object members => '{' :: membersText members

/-- The items and the bracket that closes them. -/
def itemsText : List Json → List Char
  | [] => [']']
  | item :: rest => text item ++ moreItemsText rest

/-- The items after the first, each behind a comma, and the bracket that closes them. -/
def moreItemsText : List Json → List Char
  | [] => [']']
  | item :: rest => ',' :: text item ++ moreItemsText rest

/-- The members and the brace that closes them. -/
def membersText : List (String × Json) → List Char
  | [] => ['}']
  | (name, value) :: rest => quote name ++ ':' :: text value ++ moreMembersText rest

/-- The members after the first, each behind a comma, and the brace that closes them. -/
def moreMembersText : List (String × Json) → List Char
  | [] => ['}']
  | (name, value) :: rest => ',' :: quote name ++ ':' :: text value ++ moreMembersText rest

end

/-- The compact text of a value, as a string. -/
def compact (value : Json) : String := String.ofList value.text

mutual

/-- The text that a regular expression is searched in. -/
def searchText : Json → List Char
  | .scalar (.string value) => value.toList
  | .array items => joinedText items
  | value => value.text

/-- The search texts of the items, joined by commas. -/
def joinedText : List Json → List Char
  | [] => []
  | item :: rest => searchText item ++ moreJoinedText rest

/-- The search texts of the items after the first, each behind a comma. -/
def moreJoinedText : List Json → List Char
  | [] => []
  | item :: rest => ',' :: searchText item ++ moreJoinedText rest

end

end Json

end ReleaseAnalysis
