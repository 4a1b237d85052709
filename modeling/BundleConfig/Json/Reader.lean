import BundleConfig.Json.Number

/-!
# Reading trees

`Json.read` reads a text that holds one tree and nothing else.  Between the
tokens blanks, tabs and line ends are skipped.  A key that is written twice in
one mapping keeps its first place and its last value.

A tree may nest `Json.maxReadDepth` levels of arrays and mappings.  A mapping
needs quotes around its keys, and no comma stands before a closing bracket.  A
string holds no control character, and an escaped surrogate comes in pairs.

A reader takes the characters that are left and gives back those it did not
use.  It stops with a cause and the characters left at that point.  From these
`Json.read` computes the line and the column that the message names.  The
column counts bytes.

The readers of trees, items and entries call each other.  Their first argument
counts down with every call.  It starts at the length of the text plus one, and
between two calls at least one character is used.
-/

namespace BundleConfig

namespace Json

/-- Why a text is not a tree. -/
inductive ReadCause
  | endInValue
  | endInString
  | endInArray
  | endInObject
  | expectedColon
  | expectedCommaInArray
  | expectedCommaInObject
  | expectedWord
  | expectedValue
  | badEscape
  | badNumber
  | numberOutOfRange
  | loneSurrogate
  | endOfSurrogatePair
  | controlCharacter
  | keyIsNoString
  | trailingComma
  | trailingCharacters
  | tooDeep
deriving DecidableEq

/-- A cause with the characters that were left, of which the first belongs to
the fault when `ahead` is set. -/
structure ReadStop where
  /-- The cause. -/
  cause : ReadCause
  /-- The characters that were not used. -/
  left : List Char
  /-- Whether the fault reaches over the next character. -/
  ahead : Bool

/-- A fault of a text and where it is. -/
structure ReadError where
  /-- The cause. -/
  cause : ReadCause
  /-- The line, counted from one. -/
  line : Nat
  /-- The bytes of that line before the end of the fault. -/
  column : Nat
deriving DecidableEq

/-- The wording of a cause. -/
def ReadCause.message : ReadCause → String
  | endInValue => "EOF while parsing a value"
  | endInString => "EOF while parsing a string"
  | endInArray => "EOF while parsing a list"
  | endInObject => "EOF while parsing an object"
  | expectedColon => "expected \x60:\x60"
  | expectedCommaInArray => "expected \x60,\x60 or \x60]\x60"
  | expectedCommaInObject => "expected \x60,\x60 or \x60\x7d\x60"
  | expectedWord => "expected ident"
  | expectedValue => "expected value"
  | badEscape => "invalid escape"
  | badNumber => "invalid number"
  | numberOutOfRange => "number out of range"
  | loneSurrogate => "lone leading surrogate in hex escape"
  | endOfSurrogatePair => "unexpected end of hex escape"
  | controlCharacter => "control character (\\u0000-\\u001F) found while parsing a string"
  | keyIsNoString => "key must be a string"
  | trailingComma => "trailing comma"
  | trailingCharacters => "trailing characters"
  | tooDeep => "recursion limit exceeded"

/-- The wording of a fault with its place. -/
def ReadError.message (e : ReadError) : String :=
  e.cause.message ++ " at line " ++ toString e.line ++ " column " ++ toString e.column

/-- A fault that ends before the next character. -/
def stop {α : Type} (cause : ReadCause) (left : List Char) : Except ReadStop α :=
  .error ⟨cause, left, false⟩

/-- A fault that ends after the next character. -/
def stopAhead {α : Type} (cause : ReadCause) (left : List Char) : Except ReadStop α :=
  .error ⟨cause, left, true⟩

/-! ## Blanks, words and numbers -/

/-- A character that separates tokens. -/
def isBlank (c : Char) : Bool := c == ' ' || c == '\n' || c == '\t' || c == '\r'

/-- The characters after the blanks. -/
def skipBlanks (cs : List Char) : List Char := cs.dropWhile isBlank

/-- Reads the letters of a word. -/
def word : (letters : List Char) → List Char → Except ReadStop (List Char)
  | [], cs => .ok cs
  | _ :: _, [] => stop .endInValue []
  | letter :: letters, c :: cs => if c = letter then word letters cs else stop .expectedWord cs

/-- Reads digits, of which there is at least one. -/
def digits (cs : List Char) : Except ReadStop (List Char × List Char) :=
  match cs with
  | [] => stopAhead .endInValue []
  | c :: _ =>
      if c.isDigit then .ok (cs.takeWhile Char.isDigit, cs.dropWhile Char.isDigit)
      else stopAhead .badNumber cs

/-- Reads a fraction, if there is one. -/
def fraction : List Char → Except ReadStop (Option (List Char) × List Char)
  | '.' :: cs => do
      let (places, rest) ← digits cs
      pure (some places, rest)
  | cs => .ok (none, cs)

/-- Reads the digits of an exponent, of which there is at least one. -/
def exponentDigits (below : Bool) (cs : List Char) :
    Except ReadStop (Option (Bool × List Char) × List Char) :=
  match cs with
  | [] => stop .endInValue []
  | c :: rest =>
      if c.isDigit then
        .ok (some (below, cs.takeWhile Char.isDigit), cs.dropWhile Char.isDigit)
      else stop .badNumber rest

/-- Reads an exponent, if there is one. -/
def exponent (cs : List Char) : Except ReadStop (Option (Bool × List Char) × List Char) :=
  match cs with
  | c :: rest =>
      if c = 'e' ∨ c = 'E' then
        match rest with
        | '+' :: rest => exponentDigits false rest
        | '-' :: rest => exponentDigits true rest
        | rest => exponentDigits false rest
      else .ok (none, cs)
  | [] => .ok (none, [])

/-- Reads a number after its sign. -/
def number? (negative : Bool) (cs : List Char) : Except ReadStop (Json × List Char) := do
  let (whole, rest) ←
    match cs with
    | [] => stop .endInValue []
    | '0' :: rest =>
        match rest with
        | c :: _ => if c.isDigit then stopAhead .badNumber rest else .ok (['0'], rest)
        | [] => .ok (['0'], [])
    | c :: rest =>
        if c.isDigit then .ok (cs.takeWhile Char.isDigit, cs.dropWhile Char.isDigit)
        else stop .badNumber rest
  let (places, rest) ← fraction rest
  let (power, rest) ← exponent rest
  match Number.ofWritten? ⟨negative, whole, places, power⟩ with
  | some n => pure (number n, rest)
  | none => stop .numberOutOfRange rest

/-! ## Strings -/

/-- The value of a hexadecimal digit. -/
def hexValue? (c : Char) : Option Nat :=
  if c.isDigit then some (c.toNat - 48)
  else if 'a' ≤ c ∧ c ≤ 'f' then some (c.toNat - 87)
  else if 'A' ≤ c ∧ c ≤ 'F' then some (c.toNat - 55)
  else none

/-- Reads four hexadecimal digits. -/
def hexUnit : List Char → Except ReadStop (Nat × List Char)
  | a :: b :: c :: d :: rest =>
      match hexValue? a, hexValue? b, hexValue? c, hexValue? d with
      | some a, some b, some c, some d => .ok (((a * 16 + b) * 16 + c) * 16 + d, rest)
      | _, _, _, _ => stop .badEscape rest
  | _ => stop .endInString []

/-- Reads the second half of a surrogate pair after its first. -/
def surrogatePair (high : Nat) : List Char → Except ReadStop (Char × List Char)
  | '\\' :: 'u' :: cs => do
      let (low, rest) ← hexUnit cs
      if 0xDC00 ≤ low ∧ low < 0xE000 then
        pure (Char.ofNat (0x10000 + (high - 0xD800) * 0x400 + (low - 0xDC00)), rest)
      else stop .loneSurrogate rest
  | '\\' :: _ :: cs => stop .endOfSurrogatePair cs
  | ['\\'] => stop .endInString []
  | _ :: cs => stop .endOfSurrogatePair cs
  | [] => stop .endInString []

/-- Reads what follows a backslash. -/
def escaped : List Char → Except ReadStop (Char × List Char)
  | [] => stop .endInString []
  | c :: cs =>
      match c with
      | '"' => .ok ('"', cs)
      | '\\' => .ok ('\\', cs)
      | '/' => .ok ('/', cs)
      | 'b' => .ok ('\x08', cs)
      | 'f' => .ok ('\x0c', cs)
      | 'n' => .ok ('\n', cs)
      | 'r' => .ok ('\r', cs)
      | 't' => .ok ('\t', cs)
      | 'u' => do
          let (unit, rest) ← hexUnit cs
          if 0xDC00 ≤ unit ∧ unit < 0xE000 then stop .loneSurrogate rest
          else if 0xD800 ≤ unit ∧ unit < 0xDC00 then surrogatePair unit rest
          else pure (Char.ofNat unit, rest)
      | _ => stop .badEscape cs

/-- Reads the characters of a string up to its closing quote. -/
def characters : (fuel : Nat) → List Char → Except ReadStop (List Char × List Char)
  | 0, cs => stop .endInString cs
  | _ + 1, [] => stop .endInString []
  | fuel + 1, c :: cs =>
      if c = '"' then .ok ([], cs)
      else if c = '\\' then do
        let (e, rest) ← escaped cs
        let (text, rest) ← characters fuel rest
        pure (e :: text, rest)
      else if c.toNat < 32 then stop .controlCharacter cs
      else do
        let (text, rest) ← characters fuel cs
        pure (c :: text, rest)

/-- Reads a string after its opening quote. -/
def text (cs : List Char) : Except ReadStop (String × List Char) := do
  let (letters, rest) ← characters (cs.length + 1) cs
  pure (String.ofList letters, rest)

/-! ## Trees -/

mutual

/-- Reads a tree. -/
def tree : (fuel depth : Nat) → List Char → Except ReadStop (Json × List Char)
  | 0, _, cs => stop .endInValue cs
  | fuel + 1, depth, cs =>
      match skipBlanks cs with
      | [] => stopAhead .endInValue []
      | '"' :: rest => do
          let (s, rest) ← text rest
          pure (string s, rest)
      | '[' :: rest =>
          match depth with
          | 0 => stopAhead .tooDeep ('[' :: rest)
          | depth + 1 =>
              match skipBlanks rest with
              | ']' :: rest => .ok (array [], rest)
              | [] => stopAhead .endInArray []
              | rest => do
                  let (items, rest) ← itemList fuel depth rest
                  pure (array items, rest)
      | '{' :: rest =>
          match depth with
          | 0 => stopAhead .tooDeep ('{' :: rest)
          | depth + 1 =>
              match skipBlanks rest with
              | '}' :: rest => .ok (object [], rest)
              | [] => stopAhead .endInObject []
              | rest => do
                  let (pairs, rest) ← entryList fuel depth rest
                  pure (object (Table.ofList pairs), rest)
      | 'n' :: rest => do pure (null, ← word ['u', 'l', 'l'] rest)
      | 't' :: rest => do pure (bool true, ← word ['r', 'u', 'e'] rest)
      | 'f' :: rest => do pure (bool false, ← word ['a', 'l', 's', 'e'] rest)
      | '-' :: rest => number? true rest
      | c :: rest =>
          if c.isDigit then number? false (c :: rest) else stopAhead .expectedValue (c :: rest)

/-- Reads items up to the closing bracket, of which there is at least one. -/
def itemList : (fuel depth : Nat) → List Char → Except ReadStop (List Json × List Char)
  | 0, _, cs => stop .endInArray cs
  | fuel + 1, depth, cs => do
      let (v, rest) ← tree fuel depth cs
      match skipBlanks rest with
      | ']' :: rest => pure ([v], rest)
      | ',' :: rest =>
          match skipBlanks rest with
          | [] => stopAhead .endInValue []
          | ']' :: rest => stopAhead .trailingComma (']' :: rest)
          | rest => do
              let (items, rest) ← itemList fuel depth rest
              pure (v :: items, rest)
      | [] => stopAhead .endInArray []
      | rest => stopAhead .expectedCommaInArray rest

/-- Reads entries up to the closing brace, of which there is at least one. -/
def entryList : (fuel depth : Nat) → List Char → Except ReadStop (List (String × Json) × List Char)
  | 0, _, cs => stop .endInObject cs
  | fuel + 1, depth, cs => do
      let (key, rest) ←
        match cs with
        | '"' :: rest => text rest
        | [] => stopAhead .endInValue []
        | '}' :: rest => stopAhead .trailingComma ('}' :: rest)
        | rest => stopAhead .keyIsNoString rest
      let rest ←
        match skipBlanks rest with
        | ':' :: rest => .ok rest
        | [] => stopAhead .endInObject []
        | rest => stopAhead .expectedColon rest
      let (v, rest) ← tree fuel depth rest
      match skipBlanks rest with
      | '}' :: rest => pure ([(key, v)], rest)
      | ',' :: rest => do
          let (entries, rest) ← entryList fuel depth (skipBlanks rest)
          pure ((key, v) :: entries, rest)
      | [] => stopAhead .endInObject []
      | rest => stopAhead .expectedCommaInObject rest

end

/-- How deep arrays and mappings may nest in a text. -/
def maxReadDepth : Nat := 127

/-- The place of a fault in a text. -/
def ReadStop.locate (s : ReadStop) (source : List Char) : ReadError :=
  let used := source.take (source.length - s.left.length)
  let line := used.count '\n' + 1
  let column := (used.reverse.takeWhile (· != '\n')).foldl (fun n c => n + c.utf8Size) 0
  match s.ahead, s.left with
  | true, '\n' :: _ => ⟨s.cause, line + 1, 0⟩
  | true, _ :: _ => ⟨s.cause, line, column + 1⟩
  | _, _ => ⟨s.cause, line, column⟩

/-- Reads a text that holds one tree of at most `depth` levels. -/
def readWithin (depth : Nat) (source : String) : Except ReadError Json :=
  let cs := source.toList
  let result := do
    let (v, rest) ← tree (cs.length + 1) depth cs
    match skipBlanks rest with
    | [] => pure v
    | rest => stopAhead .trailingCharacters rest
  result.mapError (·.locate cs)

/-- Reads a text that holds one tree. -/
def read (source : String) : Except ReadError Json := readWithin maxReadDepth source

end Json

end BundleConfig
