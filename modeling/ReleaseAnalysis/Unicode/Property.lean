import ReleaseAnalysis.Unicode.Folding
import ReleaseAnalysis.Unicode.GeneralCategory
import ReleaseAnalysis.Unicode.PropertyTable
import ReleaseAnalysis.Unicode.BoundaryTable

/-!
# Properties

A property either holds of a character or does not. Some properties are given by lists; the others
are derived from general categories, case folding and lists of exceptions.

Three sets serve as classes of their own: decimal digits, white space, and the characters of words.
-/

set_option autoImplicit false

namespace ReleaseAnalysis

namespace Unicode

/-- The characters of the listed property of a name. -/
def listed (name : String) : CharSet := (lookup propertyTable name).getD .empty

/-- The lowercase characters. -/
def lowercase : CharSet := (category "ll").union (listed "olower")

/-- The uppercase characters. -/
def uppercase : CharSet := (category "lu").union (listed "oupper")

/-- The alphabetic characters. -/
def alphabetic : CharSet :=
  .unionAll [lowercase, uppercase, categories ["lt", "lm", "lo", "nl"], listed "oalpha"]

/-- The characters with case. -/
def cased : CharSet := .unionAll [lowercase, uppercase, category "lt"]

/-- The characters reserved for patterns. -/
def patternCharacters : CharSet := (listed "patsyn").union (listed "patws")

/-- The characters that may start an identifier. -/
def idStart : CharSet :=
  (CharSet.unionAll [categories ["lu", "ll", "lt", "lm", "lo", "nl"], listed "oids"]).diff
    patternCharacters

/-- The characters that may continue an identifier. -/
def idContinue : CharSet :=
  (CharSet.unionAll [idStart, categories ["mn", "mc", "nd", "pc"], listed "oidc"]).diff
    patternCharacters

/-- The characters that extend a grapheme. -/
def graphemeExtend : CharSet := (categories ["me", "mn"]).union (listed "ogrext")

/-- The characters that a grapheme may start with. -/
def graphemeBase : CharSet :=
  assigned.diff (.unionAll [categories ["cc", "cf", "co", "zl", "zp"], graphemeExtend])

/-- The characters that are passed over when they cannot be shown. -/
def defaultIgnorable : CharSet :=
  (CharSet.unionAll [category "cf", listed "vs", listed "odi"]).diff
    (.unionAll [listed "wspace", listed "pcm", .range 0xFFF9 0xFFFB, .range 0x13430 0x13440])

/-- The characters that are passed over when the case of a word is determined. -/
def caseIgnorable : CharSet :=
  .unionAll (categories ["mn", "me", "cf", "lm", "sk"] ::
    ["ml", "mb", "sq"].map fun name => (lookup wordTable name).getD .empty)

/-- The characters that uppercasing changes. -/
def changesWhenUppercased : CharSet :=
  (withCaseVariants.diff uppercase).union otherChangesWhenUppercased

/-- The characters that titlecasing changes. -/
def changesWhenTitlecased : CharSet :=
  (changesWhenUppercased.diff notChangesWhenTitlecased).union otherChangesWhenTitlecased

/-- The characters that lowercasing changes. -/
def changesWhenLowercased : CharSet :=
  (changedByFolding.diff notChangesWhenLowercased).union otherChangesWhenLowercased

/-- The characters that full case folding changes. -/
def changesWhenCasefolded : CharSet :=
  (changedByFolding.diff notChangesWhenCasefolded).union otherChangesWhenCasefolded

/-- The derived properties, each under its names. -/
def derivedProperties : List (String × CharSet) :=
  [ ("lower lowercase", lowercase),
    ("upper uppercase", uppercase),
    ("alpha alphabetic", alphabetic),
    ("cased", cased),
    ("math", (category "sm").union (listed "omath")),
    ("ids idstart", idStart),
    ("idc idcontinue", idContinue),
    ("xids xidstart", idStart.diff notXidStart),
    ("xidc xidcontinue", idContinue.diff notXidContinue),
    ("grext graphemeextend", graphemeExtend),
    ("grbase graphemebase", graphemeBase),
    ("ci caseignorable", caseIgnorable),
    ("di defaultignorablecodepoint", defaultIgnorable),
    ("cwu changeswhenuppercased", changesWhenUppercased),
    ("cwt changeswhentitlecased", changesWhenTitlecased),
    ("cwl changeswhenlowercased", changesWhenLowercased),
    ("cwcf changeswhencasefolded", changesWhenCasefolded),
    ("cwcm changeswhencasemapped",
      .unionAll [changesWhenLowercased, changesWhenUppercased, changesWhenTitlecased]) ]

/-- The characters of the property that a name stands for. -/
def property? (name : String) : Option CharSet :=
  match derivedProperties.find? fun entry => isNamed entry.1 name with
  | some entry => some entry.2
  | none => lookup propertyTable name

/-- The decimal digits. -/
def digits : CharSet := category "nd"

/-- All numbers. -/
def numbers : CharSet := categories ["nd", "nl", "no"]

/-- White space. -/
def whiteSpace : CharSet := listed "wspace"

/-- The characters of words. -/
def wordCharacters : CharSet :=
  .unionAll [alphabetic, categories ["mn", "mc", "me", "nd", "pc"], listed "joinc"]

/-! ## The next version

Names of groups are checked by the next version of the standard, which adds letters and numbers. -/

/-- The alphabetic characters that the next version adds. -/
def nextAlphabetic : CharSet := .ofText
  "88F C5C CDC A7CE-A7CF A7D2 A7D4 A7F1 10940-10959 10EC5-10EC7 10EFA-10EFB 11B60-11B67 11DB0-11DDB
   16EA0-16EB8 16EBB-16ED3 16FF2-16FF6 187F8-187FF 18D09-18D1E 18D80-18DF2 1E6C0-1E6DE 1E6E0-1E6F5
   1E6FE-1E6FF 2B73A-2B73F 2CEA2-2CEAD 323B0-33479"

/-- The letters of names. -/
def nameLetters : CharSet := alphabetic.union nextAlphabetic

/-- The letters and numbers of names. -/
def nameCharacters : CharSet :=
  .unionAll [nameLetters, numbers, .range 0x11DE0 0x11DE9, .range 0x16FF4 0x16FF6]

end Unicode

end ReleaseAnalysis
