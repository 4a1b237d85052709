import BundleConfig.Pattern.Source
import BundleConfig.Pattern.Term
import BundleConfig.Text.Basic

/-!
# Reading escapes

A backslash before punctuation makes it a literal, and before a letter starts a
class, a place or a code.  A code is given by two, four or eight hexadecimal
digits or between braces.  A property has a name of one letter or between
braces, where a value may follow after a colon or an equals sign.

References back to groups are not part of the language.
-/

namespace BundleConfig

namespace Pattern

open Reader

/-! ## Codes -/

/-- Whether a character is a hexadecimal digit. -/
def isHexDigit (c : Char) : Bool := c.isDigit || ('a' ≤ c && c ≤ 'f') || ('A' ≤ c && c ≤ 'F')

/-- The value of hexadecimal digits. -/
def hexNumber (digits : List Char) : Nat :=
  digits.foldl
    (fun n c => n * 16 + (c.toNat - if c.isDigit then 48 else if c.toNat ≤ 70 then 55 else 87)) 0

/-- The character of a code that is one. -/
def character? (code : Nat) : Option Char :=
  if h : code.isValidChar then some (Char.ofNatAux code h) else none

/-- Reads a number of hexadecimal digits. -/
def hexDigits : (count : Nat) → Reader (List Char)
  | 0 => pure []
  | count + 1 => do
      let rest ← peek
      let c ← next .openEscape (.before rest)
      require (isHexDigit c) .wrongDigit (.next rest)
      skip
      let others ← hexDigits count
      pure (c :: others)

/-- How many digits a code has after the letter that announces it. -/
def codeLength (letter : Char) : Nat :=
  if letter = 'x' then 2 else if letter = 'u' then 4 else 8

/-- Reads a code after the letter that announces it.  Tells also whether two
digits make it. -/
def code (letter : Char) : Reader (Char × Bool) := do
  skip
  let start ← peek
  if ← tryTake '{' then
    let digits ← run isHexDigit
    requireMore .openEscape start
    let stop ← peek
    require (← tryTake '}') .wrongDigit (.next stop)
    skip
    let rest ← peek
    require (!digits.isEmpty) .emptyCode ⟨start, rest⟩
    let c ← demand (character? (hexNumber digits)) .wrongCode ⟨start.tail, stop⟩
    pure (c, false)
  else
    let digits ← hexDigits (codeLength letter)
    let rest ← peek
    let c ← demand (character? (hexNumber digits)) .wrongCode ⟨start, rest⟩
    pure (c, letter = 'x')

/-! ## Classes -/

/-- What a backslash and the characters after it stand for. -/
inductive Escape
  /-- A character.  `isByte` tells that it is written as two hexadecimal
  digits. -/
  | letter (c : Char) (isByte : Bool)
  /-- A class. -/
  | named (name : NamedClass)
  /-- A place. -/
  | mark (place : Mark)

/-- The class of a property by its spelling.  After `!=` it is the opposite. -/
def propertyClass (negated : Bool) (spelling : List Char) : NamedClass :=
  match Text.cut? ['!', '='] spelling with
  | some (name, value) => .property (.valued name value) !negated
  | none =>
      match (Text.cut? [':'] spelling).orElse fun _ => Text.cut? ['='] spelling with
      | some (name, value) => .property (.valued name value) negated
      | none => .property (.named spelling) negated

/-- Reads a property after the letter that announces it. -/
def property (negated : Bool) : Reader NamedClass := do
  skip
  let start ← peek
  let c ← next .openEscape (.before start)
  if c = '{' then
    let spelling ← run (· != '}')
    let rest ← peek
    require (← tryTake '}') .openEscape (.before rest)
    pure (propertyClass negated spelling)
  else
    require (c != '\\') .wrongProperty (.next start)
    skip
    pure (propertyClass negated [c])

/-! ## Places -/

/-- The place at words with a name. -/
def wordMark? (name : String) : Option Mark :=
  match name with
  | "start" => some .wordStart
  | "end" => some .wordEnd
  | "start-half" => some .wordStartHalf
  | "end-half" => some .wordEndHalf
  | _ => none

/-- Whether a character may stand in the name of a place at words. -/
def isMarkLetter (c : Char) : Bool := c.isAlpha || c == '-'

/-- Reads a place at words after its letter, where the backslash stands at `start`.
A brace begins its name, unless a count stands there. -/
def wordMark (start : List Char) : Reader Mark := do
  let brace ← peek
  match brace with
  | '{' :: inner =>
      let verbose ← isVerbose
      let inner := if verbose then dropComments false inner else inner
      require (!inner.isEmpty) .openBrace ⟨start, inner⟩
      let (name, after) := takeRun isMarkLetter verbose false inner
      if name.isEmpty then pure .wordBoundary
      else
        goTo after
        require (← tryTake '}') .openWordMark ⟨brace, after⟩
        demand (wordMark? (String.ofList name)) .unknownWordMark ⟨inner, after⟩
  | _ => pure .wordBoundary

/-! ## Escapes -/

/-- Reads what follows the backslash at `start`. -/
def escape (start : List Char) : Reader Escape := do
  let c ← next .openEscape ⟨start, []⟩
  match c with
  | 'x' | 'u' | 'U' => do
      let (letter, isByte) ← code c
      pure (.letter letter isByte)
  | 'p' => do pure (.named (← property false))
  | 'P' => do pure (.named (← property true))
  | 'd' => pure (.named (.letter .digit false))
  | 'D' => pure (.named (.letter .digit true))
  | 's' => pure (.named (.letter .space false))
  | 'S' => pure (.named (.letter .space true))
  | 'w' => pure (.named (.letter .word false))
  | 'W' => pure (.named (.letter .word true))
  | 'a' => pure (.letter '\x07' false)
  | 'f' => pure (.letter '\x0c' false)
  | 't' => pure (.letter '\t' false)
  | 'n' => pure (.letter '\n' false)
  | 'r' => pure (.letter '\r' false)
  | 'v' => pure (.letter '\x0b' false)
  | 'A' => pure (.mark .textStart)
  | 'z' => pure (.mark .textEnd)
  | 'b' => do pure (.mark (← wordMark start))
  | 'B' => pure (.mark .noWordBoundary)
  | '<' => pure (.mark .wordStart)
  | '>' => pure (.mark .wordEnd)
  | _ => do
      let rest ← peek
      require (!c.isDigit) .backReference ⟨start, rest⟩
      require (!c.isAlpha && decide (c.toNat < 128)) .unknownEscape ⟨start, rest⟩
      pure (.letter c false)

/-- Reads a character or an escape.  Tells also where it stands. -/
def escapable : Reader (Escape × Place) := do
  let start ← peek
  let c ← next .openEscape (.before start)
  let e ← if c = '\\' then escape start else pure (.letter c false)
  let stop ← peek
  pure (e, ⟨start, stop⟩)

end Pattern

end BundleConfig
