import BundleConfig.Pattern.ByteRange
import BundleConfig.Pattern.Size.Meter

/-!
# The size of letters

Letters take a state for each byte.  A choice of letters is merged into a tree by
common starts, or by common ends when reading backwards.

A place in the tree where one of the texts ends keeps the others in two groups,
those before it in the choice and those after it, since the order of preference
matters.  A group takes a state with a range for each byte that comes next.  A
place takes a further state that chooses among its groups and its ends.  Nothing
is taken where all texts end.
-/

namespace BundleConfig

namespace Pattern

/-- The bytes of a character. -/
def encodedBytes (c : Char) : List Nat := (bytesBetween c.toNat c.toNat).map ByteRange.first

/-- The bytes of letters. -/
def letterBytes (text : List Char) : List Nat := text.flatMap encodedBytes

/-- The groups between the texts that end.  Those that end before all others
count as one. -/
def groupsOf (texts : List (List Nat)) : List (List (List Nat)) :=
  let later := (texts.dropWhile List.isEmpty).splitOn []
  if (texts.head?.map List.isEmpty).getD false then [] :: later else later

/-- The different first bytes of texts. -/
def firstBytes (texts : List (List Nat)) : List Nat := (texts.filterMap List.head?).eraseDups

/-- The rests of the texts that begin with a byte. -/
def restsAfter (byte : Nat) (texts : List (List Nat)) : List (List Nat) :=
  texts.filterMap fun
    | b :: rest => if b = byte then some rest else none
    | [] => none

/-- Adds the states of the tree of texts, of a length up to `length`. -/
def addTree : (length : Nat) → List (List Nat) → Meter → Meter
  | 0, _, m => m
  | length + 1, texts, m =>
      if texts.all List.isEmpty then m
      else
        let groups := groupsOf texts
        let m := groups.foldl
          (fun m group =>
            let bytes := firstBytes group
            let m := bytes.foldl (fun m byte => addTree length (restsAfter byte group) m) m
            match bytes.length with
            | 0 => m
            | 1 => m.add 1 linkSize
            | n => m.add 1 (linkSize + rangeSize * n)) m
        m.add 1 (linkSize * (groups.length - 1))

/-- Counts a choice of texts when reading them as they are. -/
def countWords (texts : List (List Nat)) (m : Meter) : Option Meter :=
  let longest := texts.foldl (fun n text => max n text.length) 0
  (addTree (longest + 1) texts (m.add 1 0)).check

/-- Counts letters. -/
def Count.letters (text : List Char) : Count := Count.tally (letterBytes text).length 0

/-- Counts a choice of letters. -/
def Count.words (texts : List (List Char)) : Count :=
  let forwards := texts.map letterBytes
  let backwards := forwards.map List.reverse
  ⟨countWords forwards, countWords backwards⟩

end Pattern

end BundleConfig
