import BundleConfig.Expression.Problem
import BundleConfig.Text.Basic
import BundleConfig.Unicode.Letter

/-!
# Cutting expressions into tokens

Blanks separate tokens and are dropped.  A number is a run of digits with at
most one point.  A string stands between two equal quotes, and in it a backslash
takes the next character as it is, unless that is the letter of a line end, a
tab or a carriage return.  An identifier starts with a letter, an underscore or
a dollar sign and goes on with digits too.  Everything else is the first mark of
`Mark.all` that the text starts with.

`Token.scan` counts its first argument down with every token or blank.  It starts
above the number of characters, and each step uses at least one.
-/

namespace BundleConfig

namespace Token

/-- A character of a number. -/
def isNumberCharacter (c : Char) : Bool := c.isDigit || c == '.'

/-- A character that starts an identifier. -/
def startsIdentifier (c : Char) : Bool := Unicode.isAlphabetic c || c == '_' || c == '$'

/-- A character of an identifier after its first. -/
def continuesIdentifier (c : Char) : Bool := Unicode.isAlphanumeric c || c == '_' || c == '$'

/-- The double a number literal writes, rounded once. -/
def numeral? (literal : List Char) : Option Double :=
  match Text.split '.' literal with
  | [whole] => some (.ofDecimal (Text.digitsValue whole) 0)
  | [whole, places] =>
      some (.ofDecimal (Text.digitsValue (whole ++ places)) (-(places.length : Int)))
  | _ => none

/-- The character an escape stands for. -/
def escapedCharacter (c : Char) : Char :=
  if c = 'n' then '\n' else if c = 't' then '\t' else if c = 'r' then '\r' else c

/-- Reads the rest of a string after its opening quote. -/
def stringRest (quote : Char) : List Char → Except ExpressionProblem (List Char × List Char)
  | [] => .error .unterminatedString
  | ['\\'] => .error .unterminatedEscape
  | '\\' :: c :: cs => do
      let (text, rest) ← stringRest quote cs
      pure (escapedCharacter c :: text, rest)
  | c :: cs =>
      if c = quote then .ok ([], cs)
      else do
        let (text, rest) ← stringRest quote cs
        pure (c :: text, rest)

/-- The first mark a text starts with. -/
def mark? (cs : List Char) : Option Mark :=
  Mark.all.find? fun m => m.text.toList.isPrefixOf cs

/-- Reads the token that starts with the character `c`. -/
def next (c : Char) (cs : List Char) : Except ExpressionProblem (Token × List Char) :=
  if c.isDigit then
    let literal := c :: cs.takeWhile isNumberCharacter
    match numeral? literal with
    | some value => .ok (.number value, cs.dropWhile isNumberCharacter)
    | none => .error (.badNumber (String.ofList literal))
  else if c = '\'' ∨ c = '"' then do
    let (text, rest) ← stringRest c cs
    pure (.string (String.ofList text), rest)
  else if startsIdentifier c then
    .ok (.identifier (String.ofList (c :: cs.takeWhile continuesIdentifier)),
      cs.dropWhile continuesIdentifier)
  else
    match mark? (c :: cs) with
    | some m => .ok (.mark m, (c :: cs).drop m.text.toList.length)
    | none => .error (.strayCharacter c)

/-- Reads all tokens of a text. -/
def scan : (fuel : Nat) → List Char → Except ExpressionProblem (List Token)
  | 0, _ => .ok []
  | _ + 1, [] => .ok []
  | fuel + 1, c :: cs =>
      if Text.isBlank c then scan fuel cs
      else do
        let (token, rest) ← next c cs
        let tokens ← scan fuel rest
        pure (token :: tokens)

/-- The tokens of an expression. -/
def ofText (source : String) : Except ExpressionProblem (List Token) :=
  scan (source.toList.length + 1) source.toList

end Token

end BundleConfig
