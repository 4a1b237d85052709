import BundleConfig.Unicode.Derived
import BundleConfig.Unicode.Script

/-!
# Breaks

Unicode sorts the characters into classes that say where a text may be broken
between graphemes, words and sentences.  A class has a name and for most classes
a shorter one.
-/

namespace BundleConfig

namespace Unicode

/-- A class by its names. -/
abbrev NamedSet := List String × CharSet

/-- The set with a name. -/
def namedSet? (sets : List NamedSet) (name : String) : Option CharSet :=
  (sets.find? fun (names, _) => names.contains name).map (·.2)

/-- The carriage return and the line feed, by their names. -/
def lineEndClasses : List NamedSet :=
  [(["cr"], CharSet.single '\r'), (["lf"], CharSet.single '\n')]

/-- The joiner that makes one emoji of several. -/
def zeroWidthJoiner : CharSet := CharSet.ofRange 0x200D 0x200D

/-! ## Graphemes -/

/-- The syllables of Hangul. -/
def syllables : CharSet := CharSet.ofRange 0xAC00 0xD7A3

/-- The syllables of Hangul without a final consonant. -/
def openSyllables : CharSet := CharSet.ofCodes ((List.range 399).map fun n => 0xAC00 + 28 * n)

/-- The classes of graphemes. -/
def graphemeClasses : List NamedSet := lineEndClasses ++ [
  (["control", "cn"],
    (CharSet.unions [categories ["Zl", "Zp", "Cc", "Cf"],
      (category "Cn").inter defaultIgnorable]).diff
        (CharSet.unions [graphemeExtend, prependedConcatenationMark, zeroWidthJoiner,
          rangeTable ["a d"]])),
  (["extend", "ex"], graphemeExtend.union emojiModifier),
  (["zwj"], zeroWidthJoiner),
  (["regionalindicator", "ri"], regionalIndicator),
  (["prepend", "pp"],
    prependedConcatenationMark.union (rangeTable [
      "d4e 111c2-111c3 113d1 1193f 11941 11a3a 11a84-11a89 11d46 11f02"])),
  (["spacingmark", "sm"],
    (((category "Mc").diff graphemeExtend).diff (rangeTable [
      "102b-102c 1038 1062-1064 1067-106d 1083 1087-108c 108f 109a-109c 1a61 1a63-1a64 aa7b aa7d",
      "11720-11721"])).union (rangeTable ["e33 eb3"])),
  (["l"], rangeTable ["1100-115f a960-a97c"]),
  (["v"], rangeTable ["1160-11a7 d7b0-d7c6 16d63 16d67-16d6a"]),
  (["t"], rangeTable ["11a8-11ff d7cb-d7fb"]),
  (["lv"], openSyllables),
  (["lvt"], syllables.diff openSyllables)]

/-! ## Words -/

/-- The letters of Hebrew. -/
def hebrewLetter : CharSet := rangeTable [
  "5d0-5ea 5ef-5f2 fb1d fb1f-fb28 fb2a-fb36 fb38-fb3c fb3e fb40-fb41 fb43-fb44 fb46-fb4f"]

/-- The letters of Katakana and what goes with them. -/
def katakana : CharSet := rangeTable [
  "3031-3035 309b-309c 30a0-30fa 30fc-30ff 31f0-31ff 32d0-32fe 3300-3357 ff66-ff9d 1aff0-1aff3",
  "1aff5-1affb 1affd-1affe 1b000 1b120-1b122 1b155 1b164-1b167"]

/-- The scripts that are written without blanks between words. -/
def unspacedScripts : CharSet := CharSet.unions
  (["Thai", "Laoo", "Mymr", "Khmr", "Tale", "Talu", "Lana", "Tavt", "Ahom", "Hira"].map script)

/-- The characters that extend words. -/
def wordExtend : CharSet :=
  (CharSet.unions [graphemeExtend, category "Mc", emojiModifier]).diff zeroWidthJoiner

/-- The digits of numbers and the signs that enclose them. -/
def wordNumeric : CharSet :=
  (CharSet.unions [category "Nd", prependedConcatenationMark, rangeTable ["66b 19da"]]).diff
    (CharSet.ofRange 0x70F 0x70F)

/-- The classes of words. -/
def wordClasses : List NamedSet := lineEndClasses ++ [
  (["newline", "nl"], rangeTable ["b-c 85 2028-2029"]),
  (["extend"], wordExtend),
  (["zwj"], zeroWidthJoiner),
  (["format", "fo"],
    (category "Cf").diff (CharSet.unions [graphemeExtend, prependedConcatenationMark,
      zeroWidthJoiner, CharSet.ofRange 0x200B 0x200B])),
  (["katakana", "ka"], katakana),
  (["hebrewletter", "hl"], hebrewLetter),
  (["aletter", "le"],
    (alphabetic.diff (CharSet.unions [wordExtend, hebrewLetter, katakana, ideographic,
      unspacedScripts])).union (rangeTable [
        "2c2-2c5 2d2-2d7 2de-2df 2e5-2eb 2ed 2ef-2ff 55a-55c 55e 58a 5f3 70f a708-a716",
        "a720-a721 a789-a78a ab5b"])),
  (["singlequote", "sq"], CharSet.single '\''),
  (["doublequote", "dq"], CharSet.single '\"'),
  (["midnumlet", "mb"], midNumberLetter),
  (["midletter", "ml"], midLetter),
  (["midnum", "mn"], rangeTable ["2c 3b 37e 589 60c-60d 66c 7f8 2044 fe50 fe54 ff0c ff1b"]),
  (["numeric", "nu"], wordNumeric),
  (["extendnumlet", "ex"], (category "Pc").union (CharSet.ofRange 0x202F 0x202F)),
  (["regionalindicator", "ri"], regionalIndicator),
  (["wsegspace"], rangeTable ["20 1680 2000-2006 2008-200a 205f 3000"])]

/-! ## Sentences -/

/-- The characters that extend those before in a sentence. -/
def sentenceExtend : CharSet :=
  CharSet.unions [graphemeExtend, category "Mc", zeroWidthJoiner]

/-- The lowercase letters of a sentence. -/
def sentenceLower : CharSet :=
  (lowercase.diff graphemeExtend).diff (rangeTable ["10d0-10fa 10fd-10ff"])

/-- The uppercase letters of a sentence. -/
def sentenceUpper : CharSet :=
  ((category "Lt").union uppercase).diff (rangeTable ["1c90-1cba 1cbd-1cbf"])

/-- The full stops. -/
def fullStop : CharSet := rangeTable ["2e 2024 fe52 ff0e"]

/-- The characters that end a paragraph. -/
def paragraphEnd : CharSet := rangeTable ["85 2028-2029"]

/-- The classes of sentences. -/
def sentenceClasses : List NamedSet := lineEndClasses ++ [
  (["extend", "ex"], sentenceExtend),
  (["sep", "se"], paragraphEnd),
  (["format", "fo"],
    (category "Cf").diff (CharSet.unions [graphemeExtend, zeroWidthJoiner,
      prependedConcatenationMark.diff (CharSet.ofRange 0x70F 0x70F)])),
  (["sp"], whiteSpace.diff (paragraphEnd.union (rangeTable ["a d"]))),
  (["lower", "lo"], sentenceLower),
  (["upper", "up"], sentenceUpper),
  (["oletter", "le"],
    (alphabetic.union (CharSet.ofRange 0x5F3 0x5F3)).diff
      (CharSet.unions [sentenceLower, sentenceUpper, sentenceExtend])),
  (["numeric", "nu"], wordNumeric.union (CharSet.ofRange 0x66C 0x66C)),
  (["aterm", "at"], fullStop),
  (["scontinue", "sc"],
    rangeTable [
      "2c-2d 3a-3b 37e 55d 60c-60d 7f8 1802 1808 2013-2014 3001 fe10-fe11 fe13-fe14 fe31-fe32",
      "fe50-fe51 fe54-fe55 fe58 fe63 ff0c-ff0d ff1a-ff1b ff64"]),
  (["sterm", "st"], sentenceTerminal.diff fullStop),
  (["close", "cl"],
    (categories ["Ps", "Pe", "Pi", "Pf"]).union (rangeTable [
      "22 27 275b-2760 2e00-2e01 2e06-2e08 2e0b 1f676-1f678"]))]

end Unicode

end BundleConfig
