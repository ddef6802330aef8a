import ReleaseAnalysis.Json.Basic
import ReleaseAnalysis.Json.NumberLiteral

/-!
# Tokens

The text of a document is cut into brackets, commas, colons and scalars, with blanks between them.
Cutting never looks past a token's last character, so what is wrong with a text shows only after
everything before it: text that starts no token becomes one last token, `malformed`.
-/

set_option autoImplicit false

namespace ReleaseAnalysis

/-- A token of a document. -/
inductive Token
  | openArray
  | closeArray
  | openObject
  | closeObject
  | comma
  | colon
  | scalar (value : Scalar)
  | malformed
deriving DecidableEq

namespace Token

/-- The value of a hexadecimal digit. -/
def hexValue (c : Char) : Option Nat :=
  if '0' ≤ c ∧ c ≤ '9' then some (c.toNat - '0'.toNat)
  else if 'a' ≤ c ∧ c ≤ 'f' then some (c.toNat - 'a'.toNat + 10)
  else if 'A' ≤ c ∧ c ≤ 'F' then some (c.toNat - 'A'.toNat + 10)
  else none

/-- The value of four hexadecimal digits. -/
def hexQuad (a b c d : Char) : Option Nat := do
  return ((← hexValue a) * 16 + (← hexValue b)) * 256 + (← hexValue c) * 16 + (← hexValue d)

/-- The character of an escape with one letter. -/
def shortEscape : Char → Option Char
  | '"' => some '"'
  | '\\' => some '\\'
  | '/' => some '/'
  | 'b' => some '\x08'
  | 'f' => some '\x0c'
  | 'n' => some '\n'
  | 'r' => some '\r'
  | 't' => some '\t'
  | _ => none

/-- The character of two escaped surrogates, the first high and the second low. -/
def joinSurrogates (high low : Nat) : Option Char :=
  if 0xD800 ≤ high ∧ high < 0xDC00 ∧ 0xDC00 ≤ low ∧ low < 0xE000 then
    some (Char.ofNat (0x10000 + (high - 0xD800) * 0x400 + (low - 0xDC00)))
  else none

/-- Whether a code unit is half of a character. -/
def isSurrogate (unit : Nat) : Bool := 0xD800 ≤ unit && unit < 0xE000

/-- The code unit of four hexadecimal digits, and the rest. -/
def readUnit : List Char → Option (Nat × List Char)
  | a :: b :: c :: d :: rest => (hexQuad a b c d).map (·, rest)
  | _ => none

/-- The character whose escape begins with a high surrogate, and the rest. -/
def readLowSurrogate (high : Nat) : List Char → Option (Char × List Char)
  | '\\' :: 'u' :: input => do
    let (low, rest) ← readUnit input
    (joinSurrogates high low).map (·, rest)
  | _ => none

/-- The character of an escape whose backslash has been read, and the rest. -/
def readEscape : List Char → Option (Char × List Char)
  | 'u' :: input => do
    let (unit, rest) ← readUnit input
    if isSurrogate unit then readLowSurrogate unit rest else some (Char.ofNat unit, rest)
  | letter :: rest => (shortEscape letter).map (·, rest)
  | [] => none

/-- The first character inside a quoted string, and the rest. -/
def readChar : List Char → Option (Char × List Char)
  | '\\' :: input => readEscape input
  | char :: rest => if 0x20 ≤ char.toNat then some (char, rest) else none
  | [] => none

theorem length_readUnit_lt {input rest : List Char} {unit : Nat}
    (read : readUnit input = some (unit, rest)) : rest.length < input.length := by
  unfold readUnit at read
  grind [Option.map_eq_some_iff]

theorem length_readLowSurrogate_lt {high : Nat} {input rest : List Char} {char : Char}
    (read : readLowSurrogate high input = some (char, rest)) : rest.length < input.length := by
  unfold readLowSurrogate at read
  split at read
  · obtain ⟨⟨low, others⟩, found, joined⟩ := Option.bind_eq_some_iff.1 read
    obtain ⟨_, _, shape⟩ := Option.map_eq_some_iff.1 joined
    have := length_readUnit_lt found
    grind
  · contradiction

theorem length_readEscape_lt {input rest : List Char} {char : Char}
    (read : readEscape input = some (char, rest)) : rest.length < input.length := by
  unfold readEscape at read
  split at read
  · obtain ⟨⟨unit, others⟩, found, read⟩ := Option.bind_eq_some_iff.1 read
    have := length_readUnit_lt found
    by_cases surrogate : isSurrogate unit
    · have := length_readLowSurrogate_lt (by simpa [surrogate] using read)
      grind
    · grind
  · obtain ⟨_, _, shape⟩ := Option.map_eq_some_iff.1 read
    grind
  · contradiction

theorem length_readChar_lt {input rest : List Char} {char : Char}
    (read : readChar input = some (char, rest)) : rest.length < input.length := by
  unfold readChar at read
  split at read
  · have := length_readEscape_lt read
    grind
  · grind
  · contradiction

/-- The characters up to the closing quotation mark, and the rest. -/
def readString (input : List Char) : Option (List Char × List Char) :=
  match input with
  | '"' :: rest => some ([], rest)
  | input =>
    match _read : readChar input with
    | none => none
    | some (char, rest) => (readString rest).map fun (chars, rest) => (char :: chars, rest)
termination_by input.length
decreasing_by exact length_readChar_lt (by assumption)

theorem length_readString_lt {input chars rest : List Char}
    (read : readString input = some (chars, rest)) : rest.length < input.length := by
  fun_induction readString input generalizing chars with
  | case1 => grind
  | case2 => contradiction
  | case3 input _ char others found ih =>
    obtain ⟨⟨chars, last⟩, equal, shape⟩ := Option.map_eq_some_iff.1 read
    simp only [Prod.mk.injEq] at shape
    have := length_readChar_lt found
    have := ih (shape.2 ▸ equal)
    omega

/-- Whether a character may stand between tokens. -/
def isBlank (c : Char) : Bool := c == ' ' || c == '\t' || c == '\n' || c == '\r'

/-- The token at the start of a text that begins with no blank, and the rest. -/
def read : List Char → Option (Token × List Char)
  | '[' :: rest => some (openArray, rest)
  | ']' :: rest => some (closeArray, rest)
  | '{' :: rest => some (openObject, rest)
  | '}' :: rest => some (closeObject, rest)
  | ',' :: rest => some (comma, rest)
  | ':' :: rest => some (colon, rest)
  | 'n' :: 'u' :: 'l' :: 'l' :: rest => some (scalar .null, rest)
  | 't' :: 'r' :: 'u' :: 'e' :: rest => some (scalar (.bool true), rest)
  | 'f' :: 'a' :: 'l' :: 's' :: 'e' :: rest => some (scalar (.bool false), rest)
  | '"' :: rest =>
    (readString rest).map fun (chars, rest) => (scalar (.string (String.ofList chars)), rest)
  | input => do
    let (literal, rest) ← NumberLiteral.read input
    literal.value.map fun value => (scalar (.number value), rest)

theorem length_read_lt {input rest : List Char} {token : Token}
    (equal : read input = some (token, rest)) : rest.length < input.length := by
  unfold read at equal
  split at equal
  case h_10 =>
    obtain ⟨⟨chars, others⟩, found, shape⟩ := Option.map_eq_some_iff.1 equal
    have := length_readString_lt found
    grind
  case h_11 =>
    obtain ⟨⟨literal, others⟩, found, equal⟩ := Option.bind_eq_some_iff.1 equal
    obtain ⟨value, _, shape⟩ := Option.map_eq_some_iff.1 equal
    have := NumberLiteral.length_read_lt found
    grind
  all_goals grind

/-- The tokens of a text; the last one is `malformed` if the text cannot be cut to its end. -/
def list (input : List Char) : List Token :=
  match _trimmed : input.dropWhile isBlank with
  | [] => []
  | next :: others =>
    match _equal : read (next :: others) with
    | none => [malformed]
    | some (token, rest) => token :: list rest
termination_by input.length
decreasing_by
  have shorter := length_read_lt ‹read _ = _›
  have := (List.dropWhile_sublist (l := input) isBlank).length_le
  rw [‹input.dropWhile isBlank = _›] at this
  omega

end Token

end ReleaseAnalysis
