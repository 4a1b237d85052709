import BundleConfig.Pattern.Term
import BundleConfig.Unicode.Derived

/-!
# Character classes by name

The classes of `\d`, `\s` and `\w`, and bracketed classes such as `[:alpha:]`.
The latter have ASCII characters only, and so do the former where classes have
no Unicode meaning.
-/

namespace BundleConfig

open Unicode (CharSet rangeTable)

namespace Pattern

/-- The ASCII characters that separate words and lines. -/
def asciiSpace : CharSet := rangeTable ["9-d 20"]

/-- The ASCII digits. -/
def asciiDigit : CharSet := rangeTable ["30-39"]

/-- The ASCII characters of words. -/
def asciiWord : CharSet := rangeTable ["30-39 41-5a 5f 61-7a"]

/-- The set of a class by its name between colons. -/
def bracketClass? (name : String) : Option CharSet :=
  match name with
  | "alnum" => some (rangeTable ["30-39 41-5a 61-7a"])
  | "alpha" => some (rangeTable ["41-5a 61-7a"])
  | "ascii" => some CharSet.ascii
  | "blank" => some (rangeTable ["9 20"])
  | "cntrl" => some (rangeTable ["0-1f 7f"])
  | "digit" => some asciiDigit
  | "graph" => some (rangeTable ["21-7e"])
  | "lower" => some (rangeTable ["61-7a"])
  | "print" => some (rangeTable ["20-7e"])
  | "punct" => some (rangeTable ["21-2f 3a-40 5b-60 7b-7e"])
  | "space" => some asciiSpace
  | "upper" => some (rangeTable ["41-5a"])
  | "word" => some asciiWord
  | "xdigit" => some (rangeTable ["30-39 41-46 61-66"])
  | _ => none

/-- The set of a class with a letter. -/
def LetterClass.set (kind : LetterClass) (unicode : Bool) : CharSet :=
  match kind with
  | digit => if unicode then Unicode.decimal else asciiDigit
  | space => if unicode then Unicode.whiteSpace else asciiSpace
  | word => if unicode then Unicode.word else asciiWord

end Pattern

end BundleConfig
