import ReleaseAnalysis.Unicode.Property
import ReleaseAnalysis.Unicode.Script

/-!
# Boundary properties

Three properties give every character a value that decides where graphemes, words and sentences may
be divided. Values that are not listed are derived here; the value of all remaining characters has
no name.
-/

set_option autoImplicit false

namespace ReleaseAnalysis

namespace Unicode

/-- The characters that extend a grapheme cluster. -/
def clusterExtend : CharSet := graphemeExtend.union (listed "emod")

/-- The Hangul syllables. -/
def hangulSyllables : CharSet := .range 0xAC00 0xD7A3

/-- The Hangul syllables without a final consonant. -/
def openSyllables : CharSet :=
  .ofRanges ((List.range 399).map fun n => (0xAC00 + 28 * n, 0xAC00 + 28 * n))

/-- The characters with a value of the grapheme cluster break property. -/
def graphemeClusterBreak? (name : String) : Option CharSet :=
  match name with
  | "ex" => some clusterExtend
  | "extend" => some clusterExtend
  | "lv" => some openSyllables
  | "lvt" => some (hangulSyllables.diff openSyllables)
  | _ => lookup graphemeTable name

/-- The marks that a word goes on over. -/
def wordExtend : CharSet :=
  (CharSet.unionAll [graphemeExtend, category "mc", listed "emod"]).diff (.range 0x200D 0x200D)

/-- The scripts whose words are found by dictionaries only. -/
def dictionaryScripts : CharSet :=
  .unionAll ((["thai", "lao", "myanmar", "khmer", "taile", "newtailue", "taitham", "taiviet",
    "ahom", "hiragana"].map fun name => (script? name).getD .empty))

/-- The letters of words. -/
def wordLetter : CharSet :=
  let others := CharSet.unionAll (listed "ideo" :: wordExtend :: dictionaryScripts ::
    ["hl", "ka"].map fun name => (lookup wordTable name).getD .empty)
  (alphabetic.diff others).union otherWordLetter

/-- The blanks that do not divide. -/
def wordSpace : CharSet :=
  .ofRanges [(0x20, 0x20), (0x1680, 0x1680), (0x2000, 0x2006), (0x2008, 0x200A), (0x205F, 0x205F),
    (0x3000, 0x3000)]

/-- The characters with a value of the word break property. -/
def wordBreak? (name : String) : Option CharSet :=
  match name with
  | "extend" => some wordExtend
  | "le" => some wordLetter
  | "aletter" => some wordLetter
  | "wsegspace" => some wordSpace
  | _ => lookup wordTable name

/-- The marks that a sentence goes on over. -/
def sentenceExtend : CharSet :=
  .unionAll [graphemeExtend, category "mc", .range 0x200D 0x200D]

/-- The lowercase letters of sentences. -/
def sentenceLower : CharSet := lowercase.diff notSentenceLower

/-- The uppercase letters of sentences. -/
def sentenceUpper : CharSet := (uppercase.union (category "lt")).diff notSentenceUpper

/-- The other letters of sentences. -/
def sentenceLetter : CharSet :=
  let others := CharSet.unionAll [lowercase, uppercase, category "lt", sentenceExtend]
  (alphabetic.diff others).union otherSentenceLetter

/-- The characters with a value of the sentence break property. -/
def sentenceBreak? (name : String) : Option CharSet :=
  match name with
  | "ex" => some sentenceExtend
  | "extend" => some sentenceExtend
  | "lo" => some sentenceLower
  | "lower" => some sentenceLower
  | "up" => some sentenceUpper
  | "upper" => some sentenceUpper
  | "le" => some sentenceLetter
  | "oletter" => some sentenceLetter
  | _ => lookup sentenceTable name

end Unicode

end ReleaseAnalysis
