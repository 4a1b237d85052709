import BundleConfig.Unicode.Binary
import BundleConfig.Unicode.Category
import BundleConfig.Unicode.Fold

/-!
# Derived properties

Properties that follow from general categories, case folding and the binary
properties, up to a few exceptions.  All are those of version 16.0 of Unicode.
-/

namespace BundleConfig

namespace Unicode

/-! ## Letters and case -/

/-- The lowercase characters. -/
def lowercase : CharSet := (category "Ll").union otherLowercase

/-- The uppercase characters. -/
def uppercase : CharSet := (category "Lu").union otherUppercase

/-- The alphabetic characters. -/
def alphabetic : CharSet :=
  CharSet.unions [categories ["Lu", "Ll", "Lt", "Lm", "Lo", "Nl"], otherLowercase, otherUppercase,
    otherAlphabetic]

/-- The characters with a case. -/
def cased : CharSet := CharSet.unions [lowercase, uppercase, category "Lt"]

/-- The characters between the parts of a word that are not letters. -/
def midLetter : CharSet := rangeTable ["3a b7 387 55f 5f4 2027 fe13 fe55 ff1a"]

/-- The characters between the parts of a word or of a number. -/
def midNumberLetter : CharSet := rangeTable ["2e 2018-2019 2024 fe52 ff07 ff0e"]

/-- The characters that do not matter for the case of those around. -/
def caseIgnorable : CharSet :=
  CharSet.unions [categories ["Mn", "Me", "Cf", "Lm", "Sk"], midLetter, midNumberLetter,
    CharSet.single '\'']

/-- The characters that change when case is folded. -/
def changesWhenFolded : CharSet :=
  (folding.diff (rangeTable ["1fbe 1fd3 1fe3"])).union (rangeTable [
    "df 130 149 587 1e9a 1f80-1f87 1f90-1f97 1fa0-1fa7 1fb2-1fb4 1fb7 1fc2-1fc4 1fc7 1ff2-1ff4",
    "1ff7 fb00-fb04 fb06 fb13-fb17"])

/-- The characters that change in lower case. -/
def changesWhenLowered : CharSet :=
  (folding.diff (rangeTable [
    "b5 17f 345 3c2 3d0-3d1 3d5-3d6 3f0-3f1 3f5 13f8-13fd 1c80-1c88 1e9b 1fbe 1fd3 1fe3",
    "ab70-abbf fb05"])).union (rangeTable ["130 13a0-13f5"])

/-- The characters that change in upper case. -/
def changesWhenUppered : CharSet :=
  (withVariants.diff changesWhenLowered).union (rangeTable [
    "131 149 1c5 1c8 1cb 1f0 1f2 587 1e96-1e9a 1f50 1f52 1f54 1f56 1f88-1f8f 1f98-1f9f 1fa8-1faf",
    "1fb2 1fb4 1fb6-1fb7 1fbc 1fc2 1fc4 1fc6-1fc7 1fcc 1fd2 1fd6-1fd7 1fe2 1fe4 1fe6-1fe7 1ff2",
    "1ff4 1ff6-1ff7 1ffc fb00-fb04 fb13-fb17"])

/-- The characters that change in title case. -/
def changesWhenTitled : CharSet :=
  (changesWhenUppered.diff (rangeTable [
    "1c5 1c8 1cb 1f2 10d0-10fa 10fd-10ff 1f88-1f8f 1f98-1f9f 1fa8-1faf 1fbc 1fcc 1ffc"])).union
      (rangeTable ["1c4 1c7 1ca 1f1"])

/-- The characters that change in some case. -/
def changesWhenMapped : CharSet :=
  CharSet.unions [changesWhenLowered, changesWhenUppered, changesWhenTitled]

/-! ## Numbers and words -/

/-- The decimal digits. -/
def decimal : CharSet := category "Nd"

/-- The digits and other signs for numbers. -/
def numeric : CharSet := categories ["Nd", "Nl", "No"]

/-- The mathematical characters. -/
def math : CharSet := (category "Sm").union otherMath

/-- The characters of words: letters, marks, decimal digits, connecting
punctuation and the two joiners. -/
def word : CharSet :=
  CharSet.unions [alphabetic, categories ["Mn", "Mc", "Me", "Nd", "Pc"], joinControl]

/-! ## Graphemes -/

/-- The characters that extend others. -/
def graphemeExtend : CharSet := (categories ["Me", "Mn"]).union otherGraphemeExtend

/-- The characters that others extend. -/
def graphemeBase : CharSet :=
  (CharSet.all.diff (categories ["Cc", "Cf", "Cs", "Co", "Cn", "Zl", "Zp"])).diff graphemeExtend

/-- The codes that are ignored in display when they are not supported. -/
def defaultIgnorable : CharSet :=
  (CharSet.unions [otherDefaultIgnorable, category "Cf", variationSelector]).diff
    (CharSet.unions [whiteSpace, prependedConcatenationMark,
      rangeTable ["fff9-fffb 13430-13440"]])

/-! ## Identifiers -/

/-- What identifiers leave to pattern languages. -/
def patternCharacters : CharSet := patternSigns.union patternWhiteSpace

/-- The characters that may start an identifier. -/
def idStart : CharSet :=
  ((categories ["Lu", "Ll", "Lt", "Lm", "Lo", "Nl"]).union otherIdStart).diff patternCharacters

/-- The characters that may continue an identifier. -/
def idContinue : CharSet :=
  (CharSet.unions [idStart, categories ["Mn", "Mc", "Nd", "Pc"], otherIdContinue]).diff
    patternCharacters

/-- The characters whose normal forms do not continue an identifier. -/
def unstableContinue : CharSet := rangeTable [
  "37a 309b-309c fc5e-fc63 fdfa-fdfb fe70 fe72 fe74 fe76 fe78 fe7a fe7c fe7e"]

/-- The characters that may start an identifier, also in normal form. -/
def xidStart : CharSet :=
  idStart.diff (unstableContinue.union (rangeTable ["e33 eb3 ff9e-ff9f"]))

/-- The characters that may continue an identifier, also in normal form. -/
def xidContinue : CharSet := idContinue.diff unstableContinue

/-! ## Tests -/

/-- Whether a character belongs to words.  ASCII letters are known without the
table. -/
def isWord (c : Char) : Bool :=
  if c.toNat < 128 then c.isAlphanum || c == '_' else word.contains c

end Unicode

end BundleConfig
