import BundleConfig.Expression.Token
import BundleConfig.FileSystem.Basic
import BundleConfig.Json.Printer
import BundleConfig.Json.Reader
import BundleConfig.KeyPath.Basic

/-!
# What is wrong with an expression

Every way in which an expression can fail, in the order of the work: cutting it
into tokens, building its tree, computing its value.  `ExpressionProblem.message`
has the wording of each.
-/

namespace BundleConfig

/-- Why an expression has no value. -/
inductive ExpressionProblem
  /-- A number with more than one point. -/
  | badNumber (literal : String)
  | unterminatedString
  | unterminatedEscape
  /-- A character that starts no token. -/
  | strayCharacter (c : Char)
  /-- More nested sub-expressions than `limit`. -/
  | tooDeep (limit : Nat)
  /-- Another token, or none, where a mark has to stand. -/
  | expectedMark (m : Mark) (found : Option Token)
  /-- Another token, or none, where the name of a property has to stand. -/
  | expectedName (found : Option Token)
  /-- A token that starts no expression, or none. -/
  | unexpected (found : Option Token)
  /-- A token after a whole expression. -/
  | trailing (found : Token)
  /-- The name of a function or of a group of functions in the place of a value. -/
  | notValue (name : String)
  | unknownIdentifier (name : String)
  | unknownFunction (name : String)
  /-- A position asked of a group of functions. -/
  | notIndexable (group : String)
  /-- A property asked of a function. -/
  | noProperties (function : String)
  | invalidIndex (found : Json)
  | notCallable
  | propertyOfNull (step : Segment)
  | notNumber (found : Json)
  | notFinite
  | tooFewArguments (function : String) (least given : Nat)
  | notString (function : String) (found : Json)
  | wrongIncludes
  | cannotRead (file : Path) (fault : FileError)
  | cannotLoad (file : Path) (fault : FileError)
  | cannotParse (file : Path) (fault : Json.ReadError)

namespace ExpressionProblem

/-- The name a step asks for. -/
def stepName : Segment → String
  | .key name => name
  | .index position => toString position

/-- The wording without what a file system or a reader reports. -/
def summary : ExpressionProblem → String
  | badNumber literal => "invalid number literal '" ++ literal ++ "'"
  | unterminatedString => "unterminated string literal"
  | unterminatedEscape => "unterminated escape sequence"
  | strayCharacter c => "unexpected character '" ++ String.singleton c ++ "'"
  | tooDeep limit => "expression nests deeper than " ++ toString limit ++ " levels"
  | expectedMark m found => "expected '" ++ m.text ++ "', found " ++ Token.describe found
  | expectedName found => "expected property name, found " ++ Token.describe found
  | unexpected found => "unexpected " ++ Token.describe found
  | trailing found => "unexpected " ++ Token.describe (some found) ++ " after expression"
  | notValue name => "'" ++ name ++ "' is not a value"
  | unknownIdentifier name => "unknown identifier '" ++ name ++ "'"
  | unknownFunction name => "unknown function '" ++ name ++ "'"
  | notIndexable group => "cannot index '" ++ group ++ "'"
  | noProperties function => "'" ++ function ++ "' has no properties"
  | invalidIndex found => "invalid index " ++ found.toCompact
  | notCallable => "only built-in functions can be called"
  | propertyOfNull step => "cannot read property '" ++ stepName step ++ "' of null"
  | notNumber found => "expected a number, found " ++ found.toCompact
  | notFinite => "arithmetic result is not a finite number"
  | tooFewArguments function least given =>
      function ++ " expects at least " ++ toString least ++ " argument(s), got " ++ toString given
  | notString function found => function ++ " expects strings, got " ++ found.toCompact
  | wrongIncludes => "array.includes expects an array and a value"
  | cannotRead file _ => "cannot read " ++ file.text
  | cannotLoad file _ => "cannot load " ++ file.text
  | cannotParse file _ => "cannot parse " ++ file.text

/-- What a file system or a reader reports, if the problem is theirs. -/
def detail : ExpressionProblem → Option String
  | cannotRead _ fault => some fault.message
  | cannotLoad _ fault => some fault.message
  | cannotParse _ fault => some fault.message
  | _ => none

/-- The wording of a problem. -/
def message (p : ExpressionProblem) : String :=
  match p.detail with
  | some detail => p.summary ++ ": " ++ detail
  | none => p.summary

end ExpressionProblem

end BundleConfig
