import BundleConfig.Json.Printer
import BundleConfig.Pattern.Problem
import BundleConfig.Unicode.Letter

/-!
# Records from trees

A section of a configuration is a tree that stands for a record.  A *decoder*
is a function from trees to values or mismatches.  The ones here read texts,
lists, tables and records.

A record is written as a mapping from field names to values.  Names that are no
fields are passed over, and a field that is missing keeps its default.  A record
may also be written as an array of its fields in their order, of which the last
ones may be missing.

A decoder reads the parts of a tree in their order and stops at the first part
that does not fit.  The message names what it found there, a text between double
quotes: a backslash comes before a quote and before a backslash, and before the
letters for line ends, tabs and the null character, and other characters that
cannot be shown are written by their codes.
-/

namespace BundleConfig

namespace Text

/-- A character as it stands in a quoted text. -/
def quotedLetter (c : Char) : List Char :=
  if c = '"' ∨ c = '\\' then ['\\', c]
  else if c = '\n' then ['\\', 'n']
  else if c = '\r' then ['\\', 'r']
  else if c = '\t' then ['\\', 't']
  else if c = '\x00' then ['\\', '0']
  else if Unicode.isPrintable c then [c]
  else ['\\', 'u', '{'] ++ Nat.toDigits 16 c.toNat ++ ['}']

/-- A text between quotes. -/
def quoted (text : String) : String :=
  "\"" ++ String.ofList (text.toList.flatMap quotedLetter) ++ "\""

end Text

/-- Why a tree does not stand for a value. -/
inductive Mismatch
  /-- A tree of another kind than the expected one. -/
  | kind (found : Json) (expected : String)
  /-- An array of so many items, which are more than the record has fields. -/
  | tooLong (length : Nat)
  /-- A text that is no pattern. -/
  | pattern (problem : Pattern.Problem)

namespace Mismatch

/-- What a tree is, in words. -/
def describe : Json → String
  | .null => "null"
  | .bool flag => "boolean \x60" ++ toString flag ++ "\x60"
  | .number (.integer i) => "integer \x60" ++ toString i ++ "\x60"
  | .number (.double x) => "floating point \x60" ++ (Json.number (.double x)).toCompact ++ "\x60"
  | .string text => "string " ++ Text.quoted text
  | .array _ => "sequence"
  | .object _ => "map"

/-- The wording of a mismatch. -/
def message : Mismatch → String
  | kind found expected => "invalid type: " ++ describe found ++ ", expected " ++ expected
  | tooLong length =>
      "invalid length " ++ toString length ++ ", expected fewer elements in array"
  | pattern problem => problem.message

end Mismatch

namespace Decode

variable {α β : Type}

/-- A text. -/
def text : Json → Except Mismatch String
  | .string text => .ok text
  | v => .error (.kind v "a string")

/-- A list, item by item. -/
def list (item : Json → Except Mismatch α) : Json → Except Mismatch (List α)
  | .array items => items.mapM item
  | v => .error (.kind v "a sequence")

/-- A list of texts. -/
def texts : Json → Except Mismatch (List String) := list text

/-- A table, value by value. -/
def table (value : Json → Except Mismatch α) : Json → Except Mismatch (Table α)
  | .object entries =>
      entries.mapM fun (key, v) => (value v).map fun a => (key, a)
  | v => .error (.kind v "a map")

/-- A value or nothing, which is written as `null`. -/
def optional (value : Json → Except Mismatch α) : Json → Except Mismatch (Option α)
  | .null => .ok none
  | v => (value v).map some

/-- A field of a record: its name, and how a tree changes it. -/
structure Field (α : Type) where
  /-- The name. -/
  name : String
  /-- The record with the field read from a tree. -/
  read : Json → α → Except Mismatch α

/-- The field of a name, a decoder and a way to put the value. -/
def field (name : String) (value : Json → Except Mismatch β) (put : β → α → α) : Field α :=
  ⟨name, fun v a => (value v).map (put · a)⟩

/-- The record with the fields read that are among the entries. -/
def fromEntries (fields : List (Field α)) :
    List (String × Json) → α → Except Mismatch α
  | [], a => .ok a
  | (key, v) :: rest, a =>
      match fields.find? (·.name == key) with
      | some f => (f.read v a).bind (fromEntries fields rest)
      | none => fromEntries fields rest a

/-- The record with its first fields read from items. -/
def fromItems : List (Field α) → List Json → α → Except Mismatch α
  | f :: fields, v :: rest, a => (f.read v a).bind (fromItems fields rest)
  | _, _, a => .ok a

/-- A record of a name, from its defaults and fields. -/
def record (name : String) (default : α) (fields : List (Field α)) :
    Json → Except Mismatch α
  | .object entries => fromEntries fields entries default
  | .array items => do
      let a ← fromItems fields items default
      if items.length > fields.length then throw (.tooLong items.length)
      pure a
  | v => .error (.kind v ("struct " ++ name))

end Decode

end BundleConfig
