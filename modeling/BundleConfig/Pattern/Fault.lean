/-!
# What is wrong with a pattern

A text that is no pattern is refused for one fault at one place: the first one
that a reader meets, or the first one that keeps a term from having a meaning.

A *place* is a part of the text.  It is kept as what is left of the text where it
starts and where it ends, which is what a reader has at hand.
-/

namespace BundleConfig

namespace Pattern

/-! ## Faults -/

/-- What is wrong with a text that is no pattern. -/
inductive Fault
  /-- A class in brackets that is not closed. -/
  | openClass
  /-- An escape that has no place in a class. -/
  | wrongMember
  /-- An end of a range that is no character. -/
  | wrongBound
  /-- A range whose first character comes after its last one. -/
  | descendingRange
  /-- A backslash or a code without what has to follow. -/
  | openEscape
  /-- A backslash before a letter that means nothing. -/
  | unknownEscape
  /-- A code without digits. -/
  | emptyCode
  /-- A code that is no character. -/
  | wrongCode
  /-- Another character in the place of a hexadecimal digit. -/
  | wrongDigit
  /-- A property without a name. -/
  | wrongProperty
  /-- A property whose name is not known. -/
  | unknownProperty
  /-- A property whose value is not known. -/
  | unknownValue
  /-- A place at words whose brace is not closed. -/
  | openWordMark
  /-- A place at words, or a count, of which only the brace is there. -/
  | openBrace
  /-- A place at words whose name is not known. -/
  | unknownWordMark
  /-- A repetition of nothing. -/
  | nothingToRepeat
  /-- A counted repetition that is not closed. -/
  | openCount
  /-- A counted repetition without a count. -/
  | noCount
  /-- A count that is too large. -/
  | wrongCount
  /-- A counted repetition whose least count is above its greatest. -/
  | descendingCounts
  /-- A group that is not closed. -/
  | openGroup
  /-- A closing parenthesis without a group. -/
  | strayClose
  /-- A name of a group that is not closed. -/
  | openName
  /-- A name of a group without characters. -/
  | emptyName
  /-- A character that has no place in the name of a group. -/
  | wrongName
  /-- A name that an earlier group has. -/
  | repeatedName
  /-- Flags that end with the text. -/
  | openFlags
  /-- A letter that is no flag. -/
  | unknownFlag
  /-- A flag that was given before. -/
  | repeatedFlag
  /-- A second hyphen among flags. -/
  | repeatedHyphen
  /-- A hyphen without flags after it. -/
  | danglingHyphen
  /-- A reference back to a group. -/
  | backReference
  /-- A look around. -/
  | lookAround
  /-- Nesting that is deeper than a limit. -/
  | tooDeep (limit : Nat)
  /-- A class with a Unicode meaning where there is none. -/
  | notUnicode
  /-- Bytes that are no characters. -/
  | noCharacter
deriving DecidableEq

/-- The wording of a fault. -/
def Fault.message : Fault → String
  | openClass => "unclosed character class"
  | wrongMember => "invalid escape sequence found in character class"
  | wrongBound => "invalid range boundary, must be a literal"
  | descendingRange => "invalid character class range, the start must be <= the end"
  | openEscape => "incomplete escape sequence, reached end of pattern prematurely"
  | unknownEscape => "unrecognized escape sequence"
  | emptyCode => "hexadecimal literal empty"
  | wrongCode => "hexadecimal literal is not a Unicode scalar value"
  | wrongDigit => "invalid hexadecimal digit"
  | wrongProperty => "invalid Unicode character class"
  | unknownProperty => "Unicode property not found"
  | unknownValue => "Unicode property value not found"
  | openWordMark =>
      "special word boundary assertion is either unclosed or contains an invalid character"
  | openBrace =>
      "found either the beginning of a special word boundary or a bounded repetition on a \\b " ++
        "with an opening brace, but no closing brace"
  | unknownWordMark =>
      "unrecognized special word boundary assertion, valid choices are: start, end, " ++
        "start-half or end-half"
  | nothingToRepeat => "repetition operator missing expression"
  | openCount => "unclosed counted repetition"
  | noCount => "repetition quantifier expects a valid decimal"
  | wrongCount => "decimal literal invalid"
  | descendingCounts => "invalid repetition count range, the start must be <= the end"
  | openGroup => "unclosed group"
  | strayClose => "unopened group"
  | openName => "unclosed capture group name"
  | emptyName => "empty capture group name"
  | wrongName => "invalid capture group character"
  | repeatedName => "duplicate capture group name"
  | openFlags => "expected flag but got end of regex"
  | unknownFlag => "unrecognized flag"
  | repeatedFlag => "duplicate flag"
  | repeatedHyphen => "flag negation operator repeated"
  | danglingHyphen => "dangling flag negation operator"
  | backReference => "backreferences are not supported"
  | lookAround => "look-around, including look-ahead and look-behind, is not supported"
  | tooDeep limit =>
      "exceed the maximum number of nested parentheses/brackets (" ++ toString limit ++ ")"
  | notUnicode => "Unicode not allowed here"
  | noCharacter => "pattern can match invalid UTF-8"

/-! ## Places -/

/-- A part of a text. -/
structure Place where
  /-- What is left of the text where the part starts. -/
  start : List Char
  /-- What is left of the text where the part ends. -/
  stop : List Char

namespace Place

/-- The part without characters before what is left. -/
def before (rest : List Char) : Place := ⟨rest, rest⟩

/-- The next character of what is left. -/
def next (rest : List Char) : Place := ⟨rest, rest.tail⟩

end Place

/-- A fault and where it is. -/
structure Refusal where
  /-- What is wrong. -/
  fault : Fault
  /-- Where it is. -/
  place : Place
  /-- Where the same was given before, if the fault is a repetition. -/
  earlier : Option Place := none

end Pattern

end BundleConfig
