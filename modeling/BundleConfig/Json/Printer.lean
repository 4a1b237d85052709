import BundleConfig.Json.Basic
import BundleConfig.Decimal.Layout

/-!
# Printed trees

A tree has a *compact* text, without any blank, and an *indented* text, with
one item or entry per line and two blanks per level.  Empty arrays and mappings
are written on one line in both.

A string is written between double quotes.  A quote, a backslash and the
control characters below the blank are escaped, five of the latter by a letter,
the others by four hexadecimal digits.  Every other character stands for
itself.

A double keeps its `.0`.  It is written with an exponent when its leading power
of ten is below `-5` or above `15`.
-/

namespace BundleConfig

/-- How the doubles of a tree are written. -/
def Number.layout : Layout := ⟨some (-5), some 15, true⟩

/-- The text of a number. -/
def Number.render : Number → List Char
  | .integer (.ofNat n) => Nat.toDigits 10 n
  | .integer (.negSucc n) => '-' :: Nat.toDigits 10 (n + 1)
  | .double x => Number.layout.render x

namespace Json

/-! ## Strings -/

/-- A character between the quotes. -/
def escape (c : Char) : List Char :=
  if c = '"' then ['\\', '"']
  else if c = '\\' then ['\\', '\\']
  else if c = '\n' then ['\\', 'n']
  else if c = '\r' then ['\\', 'r']
  else if c = '\t' then ['\\', 't']
  else if c = '\x08' then ['\\', 'b']
  else if c = '\x0c' then ['\\', 'f']
  else if c.toNat < 32 then
    ['\\', 'u', '0', '0', Nat.digitChar (c.toNat / 16), Nat.digitChar (c.toNat % 16)]
  else [c]

/-- A string with its quotes. -/
def quote (text : String) : List Char := '"' :: text.toList.flatMap escape ++ ['"']

/-! ## Compact text -/

mutual

/-- The compact text of a tree. -/
def compact : Json → List Char
  | null => ['n', 'u', 'l', 'l']
  | bool true => ['t', 'r', 'u', 'e']
  | bool false => ['f', 'a', 'l', 's', 'e']
  | number value => value.render
  | string text => quote text
  | array items => '[' :: compactItems items ++ [']']
  | object entries => '{' :: compactEntries entries ++ ['}']
termination_by structural v => v

/-- The items of an array, with commas between them. -/
def compactItems : List Json → List Char
  | [] => []
  | v :: rest => compact v ++ (if rest.isEmpty then [] else ',' :: compactItems rest)
termination_by structural items => items

/-- The entries of a mapping, with commas between them. -/
def compactEntries : List (String × Json) → List Char
  | [] => []
  | (key, v) :: rest =>
      quote key ++ ':' :: compact v ++ (if rest.isEmpty then [] else ',' :: compactEntries rest)
termination_by structural entries => entries

end

/-- The compact text of a tree, as a string. -/
def toCompact (v : Json) : String := String.ofList v.compact

/-! ## Indented text -/

/-- The blanks at the start of a line. -/
def indentation (level : Nat) : List Char := List.replicate (2 * level) ' '

mutual

/-- The indented text of a tree whose first line is already indented. -/
def indented (level : Nat) : Json → List Char
  | array [] => ['[', ']']
  | array items => '[' :: indentedItems (level + 1) items ++ '\n' :: indentation level ++ [']']
  | object [] => ['{', '}']
  | object entries =>
      '{' :: indentedEntries (level + 1) entries ++ '\n' :: indentation level ++ ['}']
  | null => compact null
  | bool flag => compact (bool flag)
  | number value => value.render
  | string text => quote text
termination_by structural v => v

/-- The items of an array, a line each. -/
def indentedItems (level : Nat) : List Json → List Char
  | [] => []
  | v :: rest =>
      '\n' :: indentation level ++ indented level v ++
        (if rest.isEmpty then [] else ',' :: indentedItems level rest)
termination_by structural items => items

/-- The entries of a mapping, a line each. -/
def indentedEntries (level : Nat) : List (String × Json) → List Char
  | [] => []
  | (key, v) :: rest =>
      '\n' :: indentation level ++ quote key ++ ':' :: ' ' :: indented level v ++
        (if rest.isEmpty then [] else ',' :: indentedEntries level rest)
termination_by structural entries => entries

end

/-- The indented text of a tree, as a string. -/
def toIndented (v : Json) : String := String.ofList (v.indented 0)

end Json

end BundleConfig
