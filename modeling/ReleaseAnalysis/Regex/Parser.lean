import ReleaseAnalysis.Regex.Expr

/-!
# Reading regular expressions

An expression is read from left to right, with the open groups on a stack. A text that breaks any
rule of the notation is refused as a whole, so readers return an optional result: what was read and
the rest of the text. Every reader takes at least one character per step, so the number of
characters left bounds the number of steps.

With the verbose flag, blanks and comments may stand between the elements of an expression, of a
class, of braces and of escapes. A step then goes on to the next character that counts
(`advance`). The flag holds from where it is set to the end of the group.
-/

set_option autoImplicit false

namespace ReleaseAnalysis

namespace Regex

/-- A place in the text of an expression, with the flag for verbose notation. -/
structure Place where
  verbose : Bool
  rest : List Char

namespace Place

mutual

/-- Goes on to the next character that is no blank and in no comment. -/
def skipBlanks : List Char → List Char
  | [] => []
  | c :: rest =>
    if Unicode.whiteSpace.contains c then skipBlanks rest
    else if c = '#' then skipComment rest
    else c :: rest

/-- Goes on after a comment. -/
def skipComment : List Char → List Char
  | [] => []
  | c :: rest => if c = '\n' then skipBlanks rest else skipComment rest

end

/-- The place with another rest. -/
def movedTo (place : Place) (rest : List Char) : Place := { place with rest := rest }

/-- Goes on to the next character that counts. -/
def skip (place : Place) : Place :=
  if place.verbose then place.movedTo (skipBlanks place.rest) else place

/-- Goes on by one character. -/
def next (place : Place) : Place := place.movedTo (place.rest.drop 1)

/-- Goes on by one character and to the next one that counts. -/
def advance (place : Place) : Place := place.next.skip

/-- The character here. -/
def char? (place : Place) : Option Char := place.rest.head?

/-- Goes past a text if it stands here. -/
def past? (place : Place) (text : List Char) : Option Place :=
  if text.isPrefixOf place.rest then some (place.movedTo (place.rest.drop text.length)) else none

/-- Reads characters as long as they pass a test, going on to the next that counts after each. -/
def collectWithin (fuel : Nat) (test : Char → Bool) (place : Place) : List Char × Place :=
  match fuel, place.char? with
  | fuel + 1, some c =>
    if test c then
      let (found, place) := collectWithin fuel test place.advance
      (c :: found, place)
    else ([], place)
  | _, _ => ([], place)

/-- Reads characters as long as they pass a test. -/
def collect (test : Char → Bool) (place : Place) : List Char × Place :=
  place.collectWithin place.rest.length test

/-- The character that decides whether a dash stands for itself. Blanks are passed over in verbose
notation; a number sign only once. -/
def peekAfter (place : Place) : Option Char :=
  let behind := place.rest.drop 1
  if place.verbose then
    let isBlank := Unicode.whiteSpace.contains
    let counted :=
      match behind.dropWhile isBlank with
      | '#' :: comment => comment.dropWhile isBlank
      | found => found
    if counted.isEmpty then behind.head? else counted.head?
  else behind.head?

end Place

/-! ## Escapes -/

/-- One element of an expression or a class. -/
inductive Primitive
  | literal (literal : Literal)
  | dot
  | assertion (kind : Assertion)
  | query (query : Unicode.Query) (negated : Bool)
  | short (kind : ShortClass) (negated : Bool)

/-- Whether a character is a hexadecimal digit. -/
def isHexDigit (c : Char) : Bool :=
  c.isDigit || ('a' ≤ c && c ≤ 'f') || ('A' ≤ c && c ≤ 'F')

/-- The number that hexadecimal digits of either case spell. -/
def hexValue (digits : List Char) : Nat := Unicode.hexNumber (digits.map Char.toUpper)

/-- The character with a code, if there is one. -/
def charOfCode? (code : Nat) : Option Char :=
  if code.isValidChar then some (Char.ofNat code) else none

/-- Reads exactly so many hexadecimal digits. -/
def readHexDigits : Nat → Place → Option (List Char × Place)
  | 0, place => some ([], place)
  | count + 1, place => do
    let c ← place.char?
    guard (isHexDigit c)
    let (digits, place) ← readHexDigits count place.advance
    return (c :: digits, place)

/-- Reads a character given by hexadecimal digits, in braces or so many as the letter asks for. -/
def readHex (letter : Char) (place : Place) : Option (Literal × Place) :=
  match place.char? with
  | none => none
  | some '{' => do
    let (digits, place) := place.advance.collect isHexDigit
    guard (place.char? = some '}' ∧ digits ≠ [])
    return (⟨← charOfCode? (hexValue digits), false⟩, place.advance)
  | some _ => do
    let count := if letter = 'x' then 2 else if letter = 'u' then 4 else 8
    let (digits, place) ← readHexDigits count place
    return (⟨← charOfCode? (hexValue digits), letter = 'x'⟩, place)

/-- The parts of a text before and behind the first occurrence of a mark. -/
def splitAtMark (mark : List Char) : List Char → Option (List Char × List Char)
  | [] => none
  | c :: rest =>
    if mark.isPrefixOf (c :: rest) then some ([], (c :: rest).drop mark.length)
    else (splitAtMark mark rest).map fun (before, behind) => (c :: before, behind)

/-- The query in a text between braces, and whether it asks for the characters that do not have the
value. -/
def queryOf (text : List Char) : Unicode.Query × Bool :=
  let valued (parts : List Char × List Char) : Unicode.Query :=
    .valued (String.ofList parts.1) (String.ofList parts.2)
  match splitAtMark ['!', '='] text, splitAtMark [':'] text, splitAtMark ['='] text with
  | some parts, _, _ => (valued parts, true)
  | none, some parts, _ => (valued parts, false)
  | none, none, some parts => (valued parts, false)
  | none, none, none => (.named (String.ofList text), false)

/-- Reads a class given by name. -/
def readQuery (negated : Bool) (place : Place) : Option (Primitive × Place) :=
  match place.char? with
  | none => none
  | some '\\' => none
  | some '{' => do
    let (text, place) := place.advance.collect (· != '}')
    guard (place.char? = some '}')
    let (query, differs) := queryOf text
    return (.query query (negated != differs), place.next)
  | some c => some (.query (.named (String.ofList [c])) negated, place.advance)

/-- Whether a character has a meaning of its own in an expression. -/
def isMeta (c : Char) : Bool :=
  ['\\', '.', '+', '*', '?', '(', ')', '|', '[', ']', '{', '}', '^', '$', '#', '&', '-',
    '~'].contains c

/-- Whether a backslash before a character leaves the character. -/
def isEscapable (c : Char) : Bool :=
  isMeta c || (c.toNat < 0x80 && !c.isAlphanum && c != '<' && c != '>')

/-- Whether a character may stand in the name of a special word boundary. -/
def isBoundaryLetter (c : Char) : Bool := c.isAlpha || c == '-'

/-- Reads what follows `\b`: the name of a special word boundary in braces. Braces that do not start
like a name are left for a repetition. -/
def readBoundary (place : Place) : Option (Primitive × Place) :=
  match place.char? with
  | some '{' => do
    let inner := place.advance
    let first ← inner.char?
    if isBoundaryLetter first then
      let (name, closing) := inner.collect isBoundaryLetter
      guard (closing.char? = some '}')
      match String.ofList name with
      | "start" => some (.assertion .wordStart, closing.next)
      | "end" => some (.assertion .wordEnd, closing.next)
      | "start-half" => some (.assertion .wordStartHalf, closing.next)
      | "end-half" => some (.assertion .wordEndHalf, closing.next)
      | _ => none
    else some (.assertion .wordBoundary, place)
  | _ => some (.assertion .wordBoundary, place)

/-- A character as an element. -/
def primitiveOf (c : Char) : Primitive := .literal ⟨c, false⟩

/-- The character of an escape with one letter. -/
def letterEscape : Char → Option Char
  | 'a' => some '\x07'
  | 'f' => some '\x0c'
  | 't' => some '\t'
  | 'n' => some '\n'
  | 'r' => some '\r'
  | 'v' => some '\x0b'
  | _ => none

/-- The assertion of an escape with one letter. -/
def assertionEscape : Char → Option Assertion
  | 'A' => some .textStart
  | 'z' => some .textEnd
  | 'B' => some .notWordBoundary
  | '<' => some .wordStart
  | '>' => some .wordEnd
  | _ => none

/-- The class of an escape with one letter, and whether it is negated. -/
def classEscape : Char → Option (ShortClass × Bool)
  | 'd' => some (.digit, false)
  | 's' => some (.space, false)
  | 'w' => some (.word, false)
  | 'D' => some (.digit, true)
  | 'S' => some (.space, true)
  | 'W' => some (.word, true)
  | _ => none

/-- Reads an escape whose backslash has been read. -/
def readEscape (place : Place) : Option (Primitive × Place) := do
  let c ← place.char?
  if c = 'x' ∨ c = 'u' ∨ c = 'U' then
    let (literal, place) ← readHex c place.advance
    return (.literal literal, place)
  else if c = 'p' ∨ c = 'P' then readQuery (c = 'P') place.advance
  else if c = 'b' then readBoundary place.next
  else if isEscapable c then return (primitiveOf c, place.next)
  else
    match classEscape c, letterEscape c, assertionEscape c with
    | some (kind, negated), _, _ => some (.short kind negated, place.next)
    | _, some char, _ => some (primitiveOf char, place.next)
    | _, _, some kind => some (.assertion kind, place.next)
    | _, _, _ => none

/-- Reads one element of an expression. -/
def readPrimitive (place : Place) : Option (Primitive × Place) := do
  match ← place.char? with
  | '\\' => readEscape place.next
  | '.' => some (.dot, place.next)
  | '^' => some (.assertion .lineStart, place.next)
  | '$' => some (.assertion .lineEnd, place.next)
  | c => some (primitiveOf c, place.next)

/-- An element as an expression. -/
def Primitive.toExpr : Primitive → Expr
  | .literal value => .literal value
  | .dot => .dot
  | .assertion kind => .assertion kind
  | .query asked negated => .query asked negated
  | .short kind negated => .short kind negated

/-! ## Classes -/

/-- An element as a part of a class; a dot and an assertion are none. -/
def Primitive.toItem? : Primitive → Option ClassItem
  | .literal value => some (.literal value)
  | .query asked negated => some (.query asked negated)
  | .short kind negated => some (.short kind negated)
  | _ => none

/-- An element as the end of a range. -/
def Primitive.literal? : Primitive → Option Literal
  | .literal value => some value
  | _ => none

/-- Reads one element of a class. -/
def readClassPrimitive (place : Place) : Option (Primitive × Place) := do
  match ← place.char? with
  | '\\' => readEscape place.next
  | c => some (primitiveOf c, place.next)

/-- Reads a range, or an element that starts none. -/
def readRange (place : Place) : Option (ClassItem × Place) := do
  let (first, place) ← readClassPrimitive place
  let place := place.skip
  let c ← place.char?
  let behind := place.peekAfter
  if c ≠ '-' ∨ behind = some ']' ∨ behind = some '-' then return (← first.toItem?, place)
  else
    let (second, place) ← readClassPrimitive place.advance
    let low ← first.literal?
    let high ← second.literal?
    guard (low.char ≤ high.char)
    return (.range low high, place)

/-- The class that a name between colons stands for. -/
def namedClass? : String → Option NamedClass
  | "alnum" => some .alnum
  | "alpha" => some .alpha
  | "ascii" => some .ascii
  | "blank" => some .blank
  | "cntrl" => some .cntrl
  | "digit" => some .digit
  | "graph" => some .graph
  | "lower" => some .lower
  | "print" => some .print
  | "punct" => some .punct
  | "space" => some .space
  | "upper" => some .upper
  | "word" => some .word
  | "xdigit" => some .xdigit
  | _ => none

/-- Reads a class with a name between colons, if one stands here. -/
def readNamedClass (place : Place) : Option (ClassItem × Place) := do
  let inner ← place.past? ['[', ':']
  let negated := inner.char? = some '^'
  let inner := if negated then inner.next else inner
  let name := inner.rest.takeWhile (· != ':')
  let closing ← (inner.movedTo (inner.rest.dropWhile (· != ':'))).past? [':', ']']
  let kind ← namedClass? (String.ofList name)
  return (.named kind negated, closing)

/-- An unfinished class: an open bracket with what stands before it in the class around it, or an
operation with its left side. -/
inductive ClassFrame
  | opened (before : List ClassItem) (negated : Bool)
  | operation (kind : ClassOperation) (left : ClassSet)

/-- Ends an operation whose right side is complete. -/
def closeOperation (right : ClassSet) : List ClassFrame → ClassSet × List ClassFrame
  | .operation kind left :: stack => (.operation kind left right, stack)
  | stack => (right, stack)

/-- The class of parts, the last of which comes first. -/
def classSetOf (items : List ClassItem) : ClassSet := .item (ClassItem.ofItems items.reverse)

/-- Reads dashes, which stand for themselves at the start of a class. -/
def readDashes (fuel : Nat) (items : List ClassItem) (place : Place) : List ClassItem × Place :=
  match fuel, place.char? with
  | fuel + 1, some '-' => readDashes fuel (.literal ⟨'-', false⟩ :: items) place.advance
  | _, _ => (items, place)

/-- Reads an opening bracket and what has its own meaning behind it: a caret, dashes, and a closing
bracket that stands for itself. -/
def openClass (place : Place) : Option (Bool × List ClassItem × Place) := do
  let place := place.advance
  let first ← place.char?
  let negated : Bool := first = '^'
  let place := if negated then place.advance else place
  let (items, place) := readDashes place.rest.length [] place
  let c ← place.char?
  if items.isEmpty ∧ c = ']' then
    let place := place.advance
    let _ ← place.char?
    return (negated, [.literal ⟨']', false⟩], place)
  else return (negated, items, place)

/-- The operation that two equal characters stand for. -/
def classOperation? (first second : Option Char) : Option ClassOperation :=
  match first, second with
  | some '&', some '&' => some .intersection
  | some '-', some '-' => some .difference
  | some '~', some '~' => some .symmetricDifference
  | _, _ => none

/-- Reads the parts of a class up to the bracket that closes the outermost one. -/
def readClassParts (fuel : Nat) (stack : List ClassFrame) (items : List ClassItem)
    (place : Place) : Option (ClassSet × Bool × Place) :=
  match fuel with
  | 0 => none
  | fuel + 1 => do
    let place := place.skip
    let c ← place.char?
    match c, classOperation? (some c) (place.rest.drop 1).head? with
    | '[', _ =>
      match readNamedClass place with
      | some (item, place) => readClassParts fuel stack (item :: items) place
      | none =>
        let (negated, inner, place) ← openClass place
        readClassParts fuel (.opened items negated :: stack) inner place
    | ']', _ =>
      match closeOperation (classSetOf items) stack with
      | (set, [.opened _ negated]) => return (set, negated, place.next)
      | (set, .opened before negated :: stack) =>
        readClassParts fuel stack (.bracketed set negated :: before) place.next
      | _ => none
    | _, some kind =>
      let (left, stack) := closeOperation (classSetOf items) stack
      readClassParts fuel (.operation kind left :: stack) [] place.next.next
    | _, none =>
      let (item, place) ← readRange place
      readClassParts fuel stack (item :: items) place

/-- Reads a class in brackets. -/
def readClass (place : Place) : Option (Expr × Place) := do
  let (negated, items, inner) ← openClass place
  let (set, negated, place) ←
    readClassParts (inner.rest.length + 1) [.opened [] negated] items inner
  return (.bracketed set negated, place)

/-! ## Repetitions -/

/-- The greatest count of a repetition. -/
def countLimit : Nat := 0xFFFFFFFF

/-- Goes past blanks, whatever the notation. -/
def Place.dropBlanks (place : Place) : Place :=
  place.movedTo (place.rest.dropWhile Unicode.whiteSpace.contains)

/-- Reads a count with the blanks around it; `some none` if there is no digit. -/
def readCount (place : Place) : Option (Option Nat × Place) :=
  let (digits, place) := place.dropBlanks.collect Char.isDigit
  let count := Nat.ofDigitChars 10 digits 0
  if digits.isEmpty then some (none, place.dropBlanks)
  else if count ≤ countLimit then some (some count, place.dropBlanks)
  else none

/-- Reads the counts of a repetition up to the closing brace. -/
def readCounts (place : Place) : Option (Nat × Option Nat × Place) := do
  let _ ← place.char?
  let (min, place) ← readCount place
  let c ← place.char?
  let min ← min
  if c = ',' then
    let place := place.advance
    let c ← place.char?
    if c = '}' then return (min, none, place)
    else
      let (max, place) ← readCount place
      let max ← max
      guard (min ≤ max)
      return (min, some max, place)
  else return (min, some min, place)

/-- Whether a repetition may follow an expression. -/
def isRepeatable : Expr → Bool
  | .empty => false
  | .flags _ => false
  | _ => true

/-- Reads the question mark that makes a repetition reluctant. -/
def readGreed (place : Place) : Bool × Place :=
  if place.char? = some '?' then (false, place.next) else (true, place)

/-- Reads the repetition that stands here, of the last of some parts. -/
def readRepetition (parts : List Expr) (place : Place) : Option (List Expr × Place) := do
  let c ← place.char?
  match parts with
  | [] => none
  | sub :: parts =>
    guard (isRepeatable sub)
    if c = '{' then
      let (min, max, closing) ← readCounts place.advance
      guard (closing.char? = some '}')
      let (greedy, place) := readGreed closing.advance
      return (.repetition min max greedy sub :: parts, place)
    else
      let (greedy, place) := readGreed place.next
      let (min, max) := if c = '?' then (0, some 1) else if c = '*' then (0, none) else (1, none)
      return (.repetition min max greedy sub :: parts, place)

/-! ## Groups -/

/-- The flag of a letter. -/
def flagOf : Char → Option Flag
  | 'i' => some .ignoreCase
  | 'm' => some .multiLine
  | 's' => some .dotMatchesNewLine
  | 'U' => some .swapGreed
  | 'u' => some .unicode
  | 'R' => some .carriageReturn
  | 'x' => some .verbose
  | _ => none

/-- Reads flags up to a colon or a closing parenthesis: letters without repetition, and a dash
before those that are turned off. -/
def readFlags (fuel : Nat) (change : FlagChange) (negated : Bool) (place : Place) :
    Option (FlagChange × Place) :=
  match fuel, place.char? with
  | _, none => none
  | 0, _ => none
  | fuel + 1, some c =>
    if c = ':' ∨ c = ')' then
      if negated ∧ change.disabled.isEmpty then none else some (change, place)
    else if c = '-' then
      if negated then none else readFlags fuel change true place.next
    else do
      let flag ← flagOf c
      guard (flag ∉ change.enabled ∧ flag ∉ change.disabled)
      let next :=
        if negated then { change with disabled := change.disabled ++ [flag] }
        else { change with enabled := change.enabled ++ [flag] }
      readFlags fuel next negated place.next

/-- Whether a character may stand in the name of a group. -/
def isNameChar (first : Bool) (c : Char) : Bool :=
  c == '_' ||
    if first then Unicode.nameLetters.contains c
    else c == '.' || c == '[' || c == ']' || Unicode.nameCharacters.contains c

/-- Reads the name of a group and the bracket behind it. -/
def readName (place : Place) : Option (List Char × Place) := do
  let name := place.rest.takeWhile (· != '>')
  let behind := place.rest.dropWhile (· != '>')
  let first ← name.head?
  guard (!behind.isEmpty ∧ isNameChar true first ∧ name.all (isNameChar false))
  return (name, place.movedTo (behind.drop 1))

/-- What an opening parenthesis begins. -/
inductive Opening
  | group (kind : GroupKind) (name : Option (List Char))
  | flags (change : FlagChange)

/-- Reads an opening parenthesis and what belongs to it. Conditions on the text ahead or behind are
not supported. -/
def readOpening (index : Nat) (place : Place) : Option (Opening × Place) := do
  let place := place.advance
  guard (((place.past? ['?', '=']).or (place.past? ['?', '!'])).isNone)
  guard (((place.past? ['?', '<', '=']).or (place.past? ['?', '<', '!'])).isNone)
  match (place.past? ['?', 'P', '<']).or (place.past? ['?', '<']), place.past? ['?'] with
  | some place, _ =>
    let (name, place) ← readName place
    return (.group (.capturing index) (some name), place)
  | none, some place =>
    let (change, place) ← readFlags (place.rest.length + 1) ⟨[], []⟩ false place
    if place.char? = some ')' then
      guard (!change.enabled.isEmpty ∨ !change.disabled.isEmpty)
      return (.flags change, place.next)
    else return (.group (.flagged change) none, place.next)
  | none, none => return (.group (.capturing index) none, place)

/-- An unfinished part of an expression: an open group with the parts before it and the notation
around it, or the branches of an alternation. The last part or branch comes first. -/
inductive GroupFrame
  | opened (before : List Expr) (kind : GroupKind) (verbose : Bool)
  | branches (branches : List Expr)

/-- What has been read of an expression: the parts since the last group or branch began, the frames
around them, the number of groups and their names. -/
structure Progress where
  parts : List Expr
  stack : List GroupFrame
  groups : Nat
  names : List (List Char)

namespace Progress

/-- The expression of the parts read. -/
def expr (progress : Progress) : Expr := Expr.ofParts progress.parts.reverse

/-- Ends an alternation whose last branch is complete. -/
def closeBranches (last : Expr) : List GroupFrame → Expr × List GroupFrame
  | .branches branches :: stack => (.alternation (last :: branches).reverse, stack)
  | stack => (last, stack)

/-- Begins another branch. -/
def branch (progress : Progress) : Progress :=
  match progress.stack with
  | .branches branches :: stack =>
    { progress with parts := [], stack := .branches (progress.expr :: branches) :: stack }
  | stack => { progress with parts := [], stack := .branches [progress.expr] :: stack }

/-- Takes what an opening parenthesis begins. -/
def opening (progress : Progress) (opening : Opening) (place : Place) : Option (Progress × Place) :=
  match opening with
  | .flags change =>
    some ({ progress with parts := .flags change :: progress.parts },
      { place with verbose := (change.state? .verbose).getD place.verbose })
  | .group (.flagged change) _ =>
    some ({ progress with
        parts := []
        stack := .opened progress.parts (.flagged change) place.verbose :: progress.stack },
      { place with verbose := (change.state? .verbose).getD place.verbose })
  | .group kind name =>
    if name.any (progress.names.contains ·) then none
    else
      some ({ parts := [], stack := .opened progress.parts kind place.verbose :: progress.stack,
              groups := progress.groups + 1, names := name.toList ++ progress.names }, place)

/-- Ends a group. -/
def close (progress : Progress) (place : Place) : Option (Progress × Place) :=
  match closeBranches progress.expr progress.stack with
  | (expr, .opened before kind verbose :: stack) =>
    some ({ progress with parts := .group kind expr :: before, stack := stack },
      { place.next with verbose := verbose })
  | _ => none

/-- The whole expression, if no group is left open. -/
def finish (progress : Progress) : Option Expr :=
  match closeBranches progress.expr progress.stack with
  | (expr, []) => some expr
  | _ => none

/-- Reads an expression to its end. -/
def run (fuel : Nat) (progress : Progress) (place : Place) : Option Expr :=
  match fuel with
  | 0 => none
  | fuel + 1 =>
    let place := place.skip
    match place.char? with
    | none => progress.finish
    | some '(' => do
      let (opening, place) ← readOpening progress.groups place
      let (progress, place) ← progress.opening opening place
      run fuel progress place
    | some ')' => do
      let (progress, place) ← progress.close place
      run fuel progress place
    | some '|' => run fuel progress.branch place.next
    | some '[' => do
      let (class_, place) ← readClass place
      run fuel { progress with parts := class_ :: progress.parts } place
    | some c =>
      if c = '?' ∨ c = '*' ∨ c = '+' ∨ c = '{' then do
        let (parts, place) ← readRepetition progress.parts place
        run fuel { progress with parts := parts } place
      else do
        let (primitive, place) ← readPrimitive place
        run fuel { progress with parts := primitive.toExpr :: progress.parts } place

end Progress

/-- The expression that a text spells, unless it is nested too deep. -/
def Expr.parse? (text : String) : Option Expr := do
  let expr ← Progress.run (text.toList.length + 1) ⟨[], [], 0, []⟩ ⟨false, text.toList⟩
  guard (expr.depth ≤ depthLimit)
  return expr

end Regex

end ReleaseAnalysis
