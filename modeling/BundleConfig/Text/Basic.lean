/-!
# Texts

A text is cut at its leftmost occurrence of another text, at every occurrence
of a letter, or at its last one.  `replaceFirst` and `replaceAll` put a value
in the place of occurrences.  Occurrences do not overlap and are taken from the
left.

The empty text occurs everywhere: before each character and at the end.

*Blanks* are the characters with the Unicode property `White_Space`.  A text is
trimmed when it has none at its ends.

A natural number is written in decimal digits, of which there is at least one.
A plus sign may stand before them.  Only numbers below `2 ^ 64` count.
-/

namespace BundleConfig

namespace Text

/-! ## Occurrences of a text -/

/-- What stands before and after the leftmost occurrence of `needle`. -/
def cut? (needle : List Char) : List Char → Option (List Char × List Char)
  | [] => if needle.isEmpty then some ([], []) else none
  | c :: rest =>
      if needle.isPrefixOf (c :: rest) then some ([], (c :: rest).drop needle.length)
      else (cut? needle rest).map fun (before, after) => (c :: before, after)

/-- Whether `needle` occurs. -/
def occurs (needle : List Char) (cs : List Char) : Bool := (cut? needle cs).isSome

/-- The text with the leftmost occurrence of `needle` replaced. -/
def replaceFirst (needle value : List Char) (cs : List Char) : List Char :=
  match cut? needle cs with
  | some (before, after) => before ++ value ++ after
  | none => cs

/-- The text with every occurrence of `needle` replaced, after leaving out the
first `skip` characters, which belong to an occurrence already replaced. -/
def replaceFrom (needle value : List Char) : (skip : Nat) → List Char → List Char
  | _, [] => if needle.isEmpty then value else []
  | skip + 1, _ :: rest => replaceFrom needle value skip rest
  | 0, c :: rest =>
      if needle.isEmpty then value ++ c :: replaceFrom needle value 0 rest
      else if needle.isPrefixOf (c :: rest) then
        value ++ replaceFrom needle value (needle.length - 1) rest
      else c :: replaceFrom needle value 0 rest

/-- The text with every occurrence of `needle` replaced. -/
def replaceAll (needle value : List Char) (cs : List Char) : List Char :=
  replaceFrom needle value 0 cs

/-- The text without `needle` at its end, if it ends so. -/
def dropEnd? (needle : List Char) (cs : List Char) : Option (List Char) :=
  if needle.isSuffixOf cs then some (cs.take (cs.length - needle.length)) else none

/-- The text without `needle` at its start, if it starts so. -/
def dropStart? (needle : List Char) (cs : List Char) : Option (List Char) :=
  if needle.isPrefixOf cs then some (cs.drop needle.length) else none

/-! ## Occurrences of a letter

What is cut here may be a text or bytes.
-/

variable {α : Type} [DecidableEq α]

/-- The pieces between the occurrences of a letter.  There is always at least
one piece. -/
def split (separator : α) : List α → List (List α)
  | [] => [[]]
  | c :: rest =>
      if c = separator then [] :: split separator rest
      else
        match split separator rest with
        | [] => [[c]]
        | piece :: pieces => (c :: piece) :: pieces

/-- The pieces with a letter between them. -/
def join {α : Type} (separator : α) : List (List α) → List α
  | [] => []
  | [piece] => piece
  | piece :: pieces => piece ++ separator :: join separator pieces

/-- What stands up to and with the last occurrence of a letter, and the rest. -/
def cutAfterLast (c : α) (cs : List α) : List α × List α :=
  let after := cs.reverse.takeWhile (· != c)
  let before := cs.reverse.dropWhile (· != c)
  (before.reverse, after.reverse)

theorem split_ne_nil (separator : α) (cs : List α) : split separator cs ≠ [] := by
  cases cs with
  | nil => simp [split]
  | cons c rest =>
      simp only [split]
      split
      · simp
      · split <;> simp

/-- Joining the pieces of a text gives the text. -/
theorem join_split (separator : α) (cs : List α) :
    join separator (split separator cs) = cs := by
  induction cs with
  | nil => rfl
  | cons c rest ih =>
      have hne := split_ne_nil separator rest
      match hs : split separator rest with
      | [] => exact absurd hs hne
      | piece :: pieces =>
          rw [hs] at ih
          by_cases h : c = separator
          · simp [split, hs, h, join, ih]
          · cases pieces with
            | nil => simp_all [split, join]
            | cons next others => simp_all [split, join]

/-! ## Blanks -/

/-- Whether the character has the property `White_Space`. -/
def isBlank (c : Char) : Bool :=
  let n := c.toNat
  (9 ≤ n && n ≤ 13) || n == 0x20 || n == 0x85 || n == 0xA0 || n == 0x1680 ||
    (0x2000 ≤ n && n ≤ 0x200A) || n == 0x2028 || n == 0x2029 || n == 0x202F ||
    n == 0x205F || n == 0x3000

/-- The text without the blanks before its first and after its last letter. -/
def trim (cs : List Char) : List Char :=
  ((cs.dropWhile isBlank).reverse.dropWhile isBlank).reverse

/-! ## Written numbers -/

/-- The value of decimal digits. -/
def digitsValue (digits : List Char) : Nat :=
  digits.foldl (fun n c => n * 10 + (c.toNat - '0'.toNat)) 0

/-- The number a text writes. -/
def natural? (letters : List Char) : Option Nat :=
  let digits := match letters with
    | '+' :: rest => rest
    | all => all
  if digits.isEmpty || !digits.all Char.isDigit then none
  else if digitsValue digits < Nat.pow 2 64 then some (digitsValue digits) else none

end Text

end BundleConfig
