/-!
# Sets of characters

A set of characters is a list of ranges of codes in ascending order.  The ranges
neither overlap nor touch.

The codes from `0xD800` to `0xDFFF` are no characters.  The character after
`0xD7FF` is `0xE000`, but ranges that end and start there are not joined.  No
character lies between two such ranges, and the complement of their set has the
two characters themselves in this place.
-/

namespace BundleConfig

namespace Unicode

/-! ## Ranges -/

/-- The codes between two, ends included. -/
structure CodeRange where
  /-- The first code. -/
  first : Nat
  /-- The last code. -/
  last : Nat
deriving DecidableEq

/-- The last code. -/
def maxCode : Nat := 0x10FFFF

/-- The code of the character after one. -/
def codeAfter (code : Nat) : Nat := if code = 0xD7FF then 0xE000 else code + 1

/-- The code of the character before one. -/
def codeBefore (code : Nat) : Nat := if code = 0xE000 then 0xD7FF else code - 1

namespace CodeRange

/-- The range of one code. -/
def single (code : Nat) : CodeRange := ⟨code, code⟩

/-- What two ranges share. -/
def meet? (r s : CodeRange) : Option CodeRange :=
  let first := max r.first s.first
  let last := min r.last s.last
  if first ≤ last then some ⟨first, last⟩ else none

/-- What a range leaves of another. -/
def without (r s : CodeRange) : List CodeRange :=
  if r.last < s.first || s.last < r.first then [r]
  else
    (if r.first < s.first then [⟨r.first, codeBefore s.first⟩] else []) ++
      (if s.last < r.last then [⟨codeAfter s.last, r.last⟩] else [])

end CodeRange

/-- The ranges that follow `r` with `r` before them, joined with those it
reaches. -/
def joinRange (r : CodeRange) : List CodeRange → List CodeRange
  | [] => [r]
  | s :: rest =>
      if s.first ≤ r.last + 1 then joinRange ⟨r.first, max r.last s.last⟩ rest
      else r :: joinRange s rest

/-- Ranges in ascending order of their starts, joined where they overlap or
touch. -/
def joinRanges : List CodeRange → List CodeRange
  | [] => []
  | r :: rest => joinRange r rest

/-! ## Sets -/

/-- A set of characters. -/
structure CharSet where
  /-- The ranges in ascending order. -/
  ranges : List CodeRange
deriving DecidableEq

namespace CharSet

/-- The set without characters. -/
def empty : CharSet := ⟨[]⟩

/-- The set of all characters. -/
def all : CharSet := ⟨[⟨0, maxCode⟩]⟩

/-- The set of the ASCII characters. -/
def ascii : CharSet := ⟨[⟨0, 0x7F⟩]⟩

/-- The set of the codes between two. -/
def ofRange (first last : Nat) : CharSet := ⟨[⟨first, last⟩]⟩

/-- The set of one character. -/
def single (c : Char) : CharSet := ofRange c.toNat c.toNat

/-- The set of ranges in any order. -/
def ofRanges (ranges : List CodeRange) : CharSet :=
  ⟨joinRanges (ranges.mergeSort fun r s => decide (r.first ≤ s.first))⟩

/-- The set of characters by their codes. -/
def ofCodes (codes : List Nat) : CharSet := ofRanges (codes.map CodeRange.single)

/-- Whether a code lies in one of the ranges, which ascend. -/
def reaches : List CodeRange → (code : Nat) → Bool
  | [], _ => false
  | r :: rest, code => if code < r.first then false else code ≤ r.last || reaches rest code

/-- Whether a code belongs to the set. -/
def containsCode (s : CharSet) (code : Nat) : Bool := reaches s.ranges code

/-- Whether a character belongs to the set. -/
def contains (s : CharSet) (c : Char) : Bool := s.containsCode c.toNat

/-- Whether the set has ASCII characters only. -/
def isAscii (s : CharSet) : Bool := s.ranges.all fun r => r.last < 0x80

/-- The characters of either set. -/
def union (s t : CharSet) : CharSet := ofRanges (s.ranges ++ t.ranges)

/-- The characters of any of the sets. -/
def unions (sets : List CharSet) : CharSet := ofRanges (sets.flatMap CharSet.ranges)

/-- The characters of both sets. -/
def inter (s t : CharSet) : CharSet :=
  ⟨s.ranges.flatMap fun r => t.ranges.filterMap r.meet?⟩

/-- The characters of the first set that the second one lacks. -/
def diff (s t : CharSet) : CharSet :=
  ⟨t.ranges.foldl (fun left r => left.flatMap (·.without r)) s.ranges⟩

/-- The characters of one set that the other one lacks. -/
def symmDiff (s t : CharSet) : CharSet := (s.union t).diff (s.inter t)

/-- The gaps behind ranges that follow the code `previous`. -/
def gapsAfter (previous : Nat) : List CodeRange → List CodeRange
  | [] => if previous < maxCode then [⟨codeAfter previous, maxCode⟩] else []
  | r :: rest =>
      let first := codeAfter previous
      let last := codeBefore r.first
      ⟨min first last, max first last⟩ :: gapsAfter r.last rest

/-- The characters that the set lacks. -/
def complement (s : CharSet) : CharSet :=
  match s.ranges with
  | [] => all
  | r :: rest =>
      ⟨(if r.first = 0 then [] else [⟨0, codeBefore r.first⟩]) ++ gapsAfter r.last rest⟩

/-- The one character of a set that has only one. -/
def only? (s : CharSet) : Option Char :=
  match s.ranges with
  | [r] => if r.first = r.last then some (Char.ofNat r.first) else none
  | _ => none

end CharSet

end Unicode

end BundleConfig
