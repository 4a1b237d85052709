import BundleConfig.Pattern.ByteRange
import BundleConfig.Pattern.Size.Meter
import Std.Data.HashMap

/-!
# The size of sets

A set of ASCII characters takes a state where its ranges meet and one that has
them all.

For another set the byte sequences are merged.  Reading forwards they make a tree
whose equal branches are shared, and a state has several ranges.  Reading
backwards they make chains that share their ends, and a state has one range.

A state is shared when a table has it.  A table has a fixed number of slots, in
each of which a later state replaces an earlier one.  The slot of a state follows
from the numbers of the states after it, so the size of a set depends on how many
states were counted before.
-/

namespace BundleConfig

open Unicode (CharSet)

namespace Pattern

/-! ## Tables of states -/

/-- A table of states that were counted.  A slot holds what the last state put
there looks like, and its number. -/
abbrev StateTable (α : Type) := Std.HashMap Nat (α × Nat)

/-- The slot of a state that is described by numbers, in a table with `slots`
slots. -/
def slotOf (slots : Nat) (numbers : List Nat) : Nat :=
  let hash : UInt64 :=
    numbers.foldl (fun h n => (h ^^^ UInt64.ofNat n) * 0x100000001B3) 0xCBF29CE484222325
  hash.toNat % slots

/-- The number of a state in a table. -/
def StateTable.number? {α : Type} [DecidableEq α] (table : StateTable α) (slot : Nat)
    (state : α) : Option Nat :=
  match Std.HashMap.get? table slot with
  | some (held, number) => if held = state then some number else none
  | none => none

/-- What was counted, with the table of the states that may be shared. -/
structure Sharing (α : Type) where
  /-- What was counted. -/
  meter : Meter
  /-- The table. -/
  table : StateTable α

/-- The number of a state.  One that the table does not have is counted, with
further bytes. -/
def Sharing.state {α : Type} [DecidableEq α] (s : Sharing α) (slot : Nat) (state : α)
    (extra : Nat) : Nat × Sharing α :=
  match s.table.number? slot state with
  | some number => (number, s)
  | none =>
      let number := s.meter.states
      (number, ⟨s.meter.add 1 extra, s.table.insert slot (state, number)⟩)

/-! ## Forwards -/

/-- What a state with several ranges looks like: each range with the number of
the state that follows. -/
abbrev Branches := List (ByteRange × Nat)

/-- How many slots the table has when reading forwards. -/
def branchSlots : Nat := 10000

/-- The number of a state with branches. -/
def branchState (branches : Branches) (s : Sharing Branches) : Nat × Sharing Branches :=
  s.state (slotOf branchSlots (branches.flatMap fun (r, next) => [r.first, r.last, next])) branches
    (rangeSize * branches.length)

/-- Byte sequences by their first range.  Those with the same one follow each
other. -/
def byFirstRange : List (List ByteRange) → List (ByteRange × List (List ByteRange))
  | [] => []
  | [] :: rest => byFirstRange rest
  | (r :: tail) :: rest =>
      match byFirstRange rest with
      | (r', tails) :: others =>
          if r = r' then (r, tail :: tails) :: others else (r, [tail]) :: (r', tails) :: others
      | [] => [(r, [tail])]

/-- The branches of byte sequences by their first range, where `follow` gives the
state for what follows it. -/
def branchesOf
    (follow : List (List ByteRange) → Sharing Branches → Nat × Sharing Branches) :
    List (ByteRange × List (List ByteRange)) → Sharing Branches → Branches × Sharing Branches
  | [], s => ([], s)
  | (r, tails) :: others, s =>
      let (next, s) := follow tails s
      let (branches, s) := branchesOf follow others s
      ((r, next) :: branches, s)

/-- The number of the state that reads one of the byte sequences, of a length up
to `length`, and goes on to `exit`. -/
def treeState (exit : Nat) : (length : Nat) → List (List ByteRange) → Sharing Branches →
    Nat × Sharing Branches
  | 0, _, s => (exit, s)
  | length + 1, sequences, s =>
      if sequences.all List.isEmpty then (exit, s)
      else
        let (branches, s) := branchesOf (treeState exit length) (byFirstRange sequences) s
        branchState branches s

/-- Counts a set by its byte sequences when reading forwards. -/
def countTree (sequences : List (List ByteRange)) (m : Meter) : Option Meter :=
  (treeState m.states 4 sequences ⟨m.add 1 0, ∅⟩).2.meter.check

/-! ## Backwards -/

/-- What a state with one range looks like: the range with the number of the
state that follows. -/
abbrev Link := ByteRange × Nat

/-- How many slots the table has when reading backwards. -/
def linkSlots : Nat := 1000

/-- The number of a state with one range. -/
def linkState (s : Sharing Link) (next : Nat) (r : ByteRange) : Nat × Sharing Link :=
  s.state (slotOf linkSlots [next, r.first, r.last]) (r, next) 0

/-- Counts the states of a byte sequence and the choice of the last one. -/
def countChain (exit : Nat) (s : Sharing Link) (sequence : List ByteRange) : Sharing Link :=
  let (_, s) := sequence.foldl (fun (next, s) r => linkState s next r) (exit, s)
  { s with meter := s.meter.add 0 linkSize }

/-- Counts a set by its byte sequences when reading backwards. -/
def countChains (sequences : List (List ByteRange)) (m : Meter) : Option Meter :=
  (sequences.foldl (countChain (m.states + 1)) ⟨m.add 2 0, ∅⟩).meter.check

/-! ## Either way -/

/-- Counts a set. -/
def Count.set (set : CharSet) : Count :=
  if set.isAscii then Count.tally 2 (rangeSize * set.ranges.length)
  else
    let sequences := setSequences set
    ⟨countTree sequences, countChains sequences⟩

end Pattern

end BundleConfig
