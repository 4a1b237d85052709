import BundleConfig.KeyPath.Basic
import BundleConfig.Text.Basic

/-!
# Reading key paths

`KeyPath.ofText` reads every text as a key path.  Dots separate keys, and empty
keys between them are left out.  A backslash takes the next character as part
of a key.  Blanks at both ends of the text are ignored.

Brackets hold one step, up to the next closing bracket or the end of the text.
A text in double or single quotes is the key between them.  A natural number
below `2 ^ 64` is a position.  Any other text is a key, and an empty one is left
out.  Blanks at both ends of the bracket are ignored, those inside quotes not.
-/

namespace BundleConfig

namespace KeyPath

/-- The key spelled by the characters, unless there are none. -/
def keyOf (letters : List Char) : KeyPath :=
  if letters.isEmpty then [] else [.key (String.ofList letters)]

/-- The text between two equal quotes. -/
def unquote? (quote : Char) : List Char → Option (List Char)
  | [] => none
  | c :: rest =>
      if c = quote ∧ rest.getLast? = some quote then some rest.dropLast else none

/-- The step between brackets. -/
def bracketed (letters : List Char) : KeyPath :=
  let inner := Text.trim letters
  match (unquote? '"' inner).orElse fun _ => unquote? '\'' inner with
  | some key => [.key (String.ofList key)]
  | none =>
      match Text.natural? inner with
      | some position => [.index position]
      | none => keyOf inner

/-- Reads the steps of a text.  `bracket` holds the characters since an open
bracket, and `pending` those of the key so far, both latest first. -/
def scan (pending : List Char) : (bracket : Option (List Char)) → List Char → KeyPath
  | none, [] => keyOf pending.reverse
  | some inner, [] => bracketed inner.reverse
  | some inner, c :: rest =>
      if c = ']' then bracketed inner.reverse ++ scan [] none rest
      else scan [] (some (c :: inner)) rest
  | none, '\\' :: [] => keyOf pending.reverse
  | none, '\\' :: c :: rest => scan (c :: pending) none rest
  | none, c :: rest =>
      if c = '.' then keyOf pending.reverse ++ scan [] none rest
      else if c = '[' then keyOf pending.reverse ++ scan [] (some []) rest
      else scan (c :: pending) none rest
termination_by structural _ cs => cs

/-- The key path a text stands for. -/
def ofText (text : String) : KeyPath := scan [] none (Text.trim text.toList)

end KeyPath

end BundleConfig
