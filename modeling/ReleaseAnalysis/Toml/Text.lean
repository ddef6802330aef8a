/-!
# Blanks, strings and keys of a configuration document

A reading takes characters from the front of a text and may fail; a choice between two readings
starts the second where the first one started.

Strings stand between quotation marks, with escapes, or between apostrophes, without. Three marks
open a string of several lines, from which a line break at its beginning is left out. A key is a
string of one line or a bare word; the parts of a key with dots may have blanks around them.
-/

set_option autoImplicit false

namespace ReleaseAnalysis

namespace Toml

/-- A reading of the front of a text. -/
abbrev Reading := StateT (List Char) Option

namespace Reading

/-- The next character, which is left in place. -/
def peek? : Reading (Option Char) := fun input => some (input.head?, input)

/-- Takes a character that passes a test. -/
def take (test : Char → Bool) : Reading Char
  | [] => none
  | c :: rest => if test c then some (c, rest) else none

/-- Takes characters as long as they pass a test. -/
def takeWhile (test : Char → Bool) : Reading (List Char) := fun input =>
  some (input.takeWhile test, input.dropWhile test)

/-- Takes a text if it stands here, and says whether it did. -/
def accept (text : String) : Reading Bool := fun input =>
  if text.toList.isPrefixOf input then some (true, input.drop text.length) else some (false, input)

/-- Takes a text that has to stand here. -/
def expect (text : String) : Reading Unit := do guard (← accept text)

/-- Repeats a reading until it has no result, at most once for each character of a text and once
more. -/
def collectWithin {α : Type} (step : Reading (Option α)) : List Char → Reading (List α)
  | [] => do
    guard (← step).isNone
    return []
  | _ :: room => do
    match ← step with
    | none => return []
    | some found => return found :: (← collectWithin step room)

/-- Repeats a reading until it has no result. As each step takes a character, the text that is left
gives room enough. -/
def collect {α : Type} (step : Reading (Option α)) : Reading (List α) := fun input =>
  collectWithin step input input

end Reading

open Reading

/-! ## Blanks -/

/-- Whether a character is a blank within a line. -/
def isBlank (c : Char) : Bool := c == ' ' || c == '\t'

/-- Whether a character may stand in a comment or between apostrophes. -/
def isPlain (c : Char) : Bool := c == '\t' || (0x20 ≤ c.toNat && c.toNat != 0x7F)

/-- Goes past blanks within a line. -/
def skipBlanks : Reading Unit := do let _ ← takeWhile isBlank

/-- Goes past a line break, and says whether there was one. -/
def acceptNewline : Reading Bool := do
  if ← accept "\n" then return true else accept "\r\n"

/-- Goes past a comment, if there is one. -/
def skipComment : Reading Unit := do
  if ← accept "#" then
    let _ ← takeWhile isPlain

/-- Goes to the next line, or to the end of the text. -/
def endLine : Reading Unit := do
  skipBlanks
  skipComment
  if !(← acceptNewline) then guard ((← peek?) = none)

/-- Goes past blanks, comments and line breaks. -/
def skipLines : Reading Unit := do
  let _ ← collect (do
    skipBlanks
    if (← peek?) = some '#' then
      skipComment
      guard (← acceptNewline)
      return some ()
    else return if ← acceptNewline then some () else none)

/-! ## Strings -/

/-- Whether a character is a hexadecimal digit. -/
def isHexDigit (c : Char) : Bool :=
  c.isDigit || ('a' ≤ c && c ≤ 'f') || ('A' ≤ c && c ≤ 'F')

/-- The value of a digit, in any base up to sixteen. -/
def digitValue (c : Char) : Nat :=
  if c.isDigit then c.toNat - '0'.toNat else c.toLower.toNat - 'a'.toNat + 10

/-- The number that digits spell in a base. -/
def numberOf (base : Nat) (digits : List Char) : Nat :=
  digits.foldl (fun value digit => base * value + digitValue digit) 0

/-- Takes exactly so many characters that pass a test. -/
def takeExactly (test : Char → Bool) : Nat → Reading (List Char)
  | 0 => return []
  | count + 1 => do return (← take test) :: (← takeExactly test count)

/-- The character with a code of so many hexadecimal digits. -/
def readCode (digits : Nat) : Reading Char := do
  let code := numberOf 16 (← takeExactly isHexDigit digits)
  guard code.isValidChar
  return Char.ofNat code

/-- Reads an escape whose backslash has been read. -/
def readEscape : Reading Char := do
  match ← take fun _ => true with
  | 'b' => return '\x08'
  | 't' => return '\t'
  | 'n' => return '\n'
  | 'f' => return '\x0c'
  | 'r' => return '\r'
  | '"' => return '"'
  | '\\' => return '\\'
  | 'u' => readCode 4
  | 'U' => readCode 8
  | _ => failure

/-- Reads one character of a string of one line, or its end. -/
def readLineChar (mark : Char) (escapes : Bool) : Reading (Option Char) := do
  let c ← take isPlain
  if c = mark then return none
  else if escapes ∧ c = '\\' then return some (← readEscape)
  else return some c

/-- Reads the rest of a string of one line. -/
def readLineString (mark : Char) (escapes : Bool) : Reading String := do
  return String.ofList (← collect (readLineChar mark escapes))

/-- Goes past the end of a line and the blanks and line breaks behind it. -/
def skipLineEnd : Reading Unit := do
  skipBlanks
  guard (← acceptNewline)
  let _ ← collect (do
    skipBlanks
    return if ← acceptNewline then some () else none)

/-- Reads some characters of a string of several lines, or its end. Up to two marks may stand
directly before the three that end the string. -/
def readLinesChars (mark : Char) (escapes : Bool) : Reading (Option (List Char)) := do
  match ← takeWhile (· == mark) with
  | [_, _, _] => return none
  | [] =>
    if ← acceptNewline then return some ['\n']
    else
      let c ← take isPlain
      if escapes ∧ c = '\\' then
        (do skipLineEnd; return some []) <|> (do return some [← readEscape])
      else return some [c]
  | marks =>
    guard (marks.length ≤ 5)
    if 3 < marks.length then modify (List.replicate 3 mark ++ ·)
    return some (if 3 < marks.length then marks.drop 3 else marks)

/-- Reads the rest of a string of several lines. -/
def readLinesString (mark : Char) (escapes : Bool) : Reading String := do
  let _ ← acceptNewline
  return String.ofList (← collect (readLinesChars mark escapes)).flatten

/-- Reads a string, if a mark stands here. -/
def readString? : Reading (Option String) := do
  if ← accept "\"\"\"" then return some (← readLinesString '"' true)
  else if ← accept "\"" then return some (← readLineString '"' true)
  else if ← accept "'''" then return some (← readLinesString '\'' false)
  else if ← accept "'" then return some (← readLineString '\'' false)
  else return none

/-! ## Keys -/

/-- Whether a character may stand in a bare key. -/
def isBare (c : Char) : Bool := c.isAlphanum || c == '_' || c == '-'

/-- Reads one part of a key. -/
def readKeyPart : Reading String := do
  if ← accept "\"" then readLineString '"' true
  else if ← accept "'" then readLineString '\'' false
  else
    let chars ← takeWhile isBare
    guard !chars.isEmpty
    return String.ofList chars

/-- The number of parts that a key does not reach. -/
def keyLimit : Nat := 80

/-- Reads a key with the blanks around it: the parts before the last dot, and the last part. -/
def readKey : Reading (List String × String) := do
  skipBlanks
  let first ← readKeyPart
  skipBlanks
  let others ← collect (do
    if ← accept "." then
      skipBlanks
      let part ← readKeyPart
      skipBlanks
      return some part
    else return none)
  guard (others.length + 1 < keyLimit)
  return ((first :: others).dropLast, others.getLastD first)

end Toml

end ReleaseAnalysis
