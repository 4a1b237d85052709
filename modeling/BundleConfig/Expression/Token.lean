import BundleConfig.Decimal.Layout

/-!
# Tokens

An expression is written in tokens: numbers, strings, identifiers and marks.
Marks are the operators and the punctuation.

`Token.describe` is the wording of a token in a message.  It writes a number in
digits only, without exponent, and an integral one without a point.
-/

namespace BundleConfig

/-- An operator or a punctuation mark. -/
inductive Mark
  | strictEqual
  | strictNotEqual
  | equal
  | notEqual
  | lessEqual
  | greaterEqual
  | and
  | or
  | openParen
  | closeParen
  | openBracket
  | closeBracket
  | comma
  | dot
  | question
  | colon
  | not
  | plus
  | minus
  | times
  | divide
  | percent
  | less
  | greater
deriving DecidableEq

namespace Mark

/-- How the mark is written. -/
def text : Mark → String
  | strictEqual => "==="
  | strictNotEqual => "!=="
  | equal => "=="
  | notEqual => "!="
  | lessEqual => "<="
  | greaterEqual => ">="
  | and => "&&"
  | or => "||"
  | openParen => "("
  | closeParen => ")"
  | openBracket => "["
  | closeBracket => "]"
  | comma => ","
  | dot => "."
  | question => "?"
  | colon => ":"
  | not => "!"
  | plus => "+"
  | minus => "-"
  | times => "*"
  | divide => "/"
  | percent => "%"
  | less => "<"
  | greater => ">"

/-- All marks, in the order in which a text is compared with them.  A mark that
another one starts with comes after it. -/
def all : List Mark :=
  [strictEqual, strictNotEqual, equal, notEqual, lessEqual, greaterEqual, and, or, openParen,
    closeParen, openBracket, closeBracket, comma, dot, question, colon, not, plus, minus, times,
    divide, percent, less, greater]

end Mark

/-- A word of an expression. -/
inductive Token
  /-- A number. -/
  | number (value : Double)
  /-- A string, without its quotes and escapes. -/
  | string (text : String)
  /-- A name. -/
  | identifier (name : String)
  /-- A mark. -/
  | mark (m : Mark)
deriving DecidableEq

namespace Token

/-- How a number is written after the word for it. -/
def numberLayout : Layout := ⟨none, none, false⟩

/-- The wording of a token, or of the end where there is none. -/
def describe : Option Token → String
  | none => "end of input"
  | some (number value) => "number " ++ String.ofList (numberLayout.render value)
  | some (string text) => "string '" ++ text ++ "'"
  | some (identifier name) => "identifier '" ++ name ++ "'"
  | some (mark m) => "'" ++ m.text ++ "'"

end Token

end BundleConfig
