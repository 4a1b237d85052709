import BundleConfig.Text.Basic
import BundleConfig.Unicode.CharSet

/-!
# Tables in writing

Tables of characters are written as rows of words with single blanks between
them.  There are two kinds.

* *Ranges.*  A word is a hexadecimal code such as `aa`, or two of them with a
  hyphen such as `41-5a`.  The ranges ascend.
* *Runs.*  A word is a name and a length such as `Lu26`.  Runs follow each other
  from the first character on without gaps.
-/

namespace BundleConfig

namespace Unicode

/-- The words of a row, after the letters in `pending`, last first. -/
def rowWords : (pending : List Char) → List Char → List (List Char)
  | pending, [] => [pending.reverse]
  | pending, c :: rest =>
      if c = ' ' then pending.reverse :: rowWords [] rest else rowWords (c :: pending) rest

/-- The words of rows. -/
def tableWords (rows : List String) : List (List Char) :=
  rows.flatMap fun row => rowWords [] row.toList

/-- The value of a hexadecimal digit in lower case. -/
def hexDigit (c : Char) : Nat := if c.toNat ≤ 57 then c.toNat - 48 else c.toNat - 87

/-- The value of hexadecimal digits. -/
def hexCode (digits : List Char) : Nat := digits.foldl (fun n c => 16 * n + hexDigit c) 0

/-! ## Ranges -/

/-- The range a word stands for. -/
def wordRange (word : List Char) : CodeRange :=
  let first := word.takeWhile (· != '-')
  match word.dropWhile (· != '-') with
  | _ :: last => ⟨hexCode first, hexCode last⟩
  | [] => CodeRange.single (hexCode first)

/-- The set of the ranges in rows. -/
def rangeTable (rows : List String) : CharSet := ⟨(tableWords rows).map wordRange⟩

/-! ## Runs -/

/-- The run a word stands for. -/
def wordRun (word : List Char) : String × Nat :=
  (String.ofList (word.takeWhile Char.isAlpha), Text.digitsValue (word.dropWhile Char.isAlpha))

/-- The runs in rows. -/
def runTable (rows : List String) : List (String × Nat) := (tableWords rows).map wordRun

/-- The ranges of the runs with a chosen name.  The first run begins at
`start`. -/
def runRanges (chosen : String → Bool) : (start : Nat) → List (String × Nat) → List CodeRange
  | _, [] => []
  | start, (name, length) :: rest =>
      if chosen name then ⟨start, start + length - 1⟩ :: runRanges chosen (start + length) rest
      else runRanges chosen (start + length) rest

/-- The set of the characters in runs with a chosen name. -/
def runSet (chosen : String → Bool) (runs : List (String × Nat)) : CharSet :=
  ⟨joinRanges (runRanges chosen 0 runs)⟩

end Unicode

end BundleConfig
