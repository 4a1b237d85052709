/-!
# Counting states

The size of an automaton is counted state by state.  A state takes `stateSize`
bytes.  One that chooses among others takes `linkSize` bytes more for each, and
one with several ranges of bytes takes `rangeSize` more for each.

A `Meter` holds the states counted so far and the further bytes.  Counting ends
without a result as soon as the size is above `maxSize`.

A `Count` has two directions, since an automaton may read forwards or backwards.
-/

namespace BundleConfig

namespace Pattern

/-- The bytes of a state. -/
def stateSize : Nat := 32

/-- The bytes for a state that another one chooses. -/
def linkSize : Nat := 4

/-- The bytes for one of several ranges of bytes. -/
def rangeSize : Nat := 8

/-- How many bytes an automaton may take. -/
def maxSize : Nat := 10485760

/-- What was counted. -/
structure Meter where
  /-- The states. -/
  states : Nat
  /-- The further bytes. -/
  extra : Nat
deriving DecidableEq

namespace Meter

/-- The meter before anything is counted. -/
def zero : Meter := ⟨0, 0⟩

/-- The bytes counted. -/
def size (m : Meter) : Nat := m.states * stateSize + m.extra

/-- The meter with states and further bytes added. -/
def add (m : Meter) (states extra : Nat) : Meter := ⟨m.states + states, m.extra + extra⟩

/-- The meter unless its size is too high. -/
def check (m : Meter) : Option Meter := if m.size ≤ maxSize then some m else none

end Meter

/-- A step of counting in either direction, which may find the size too high. -/
structure Count where
  /-- The step when reading forwards. -/
  forwards : Meter → Option Meter
  /-- The step when reading backwards. -/
  backwards : Meter → Option Meter

namespace Count

/-- Counts states and further bytes. -/
def tally (states extra : Nat) : Count :=
  let step (m : Meter) := (m.add states extra).check
  ⟨step, step⟩

/-- Counts the same in both directions, one thing after another. -/
def andThen (first second : Count) : Count :=
  ⟨fun m => (first.forwards m).bind second.forwards,
    fun m => (first.backwards m).bind second.backwards⟩

/-- Counts what is read in order, in the order in which it is read. -/
def inOrder (first second : Count) : Count :=
  ⟨fun m => (first.forwards m).bind second.forwards,
    fun m => (second.backwards m).bind first.backwards⟩

/-- Takes a step several times. -/
def stepTimes (step : Meter → Option Meter) : (n : Nat) → Meter → Option Meter
  | 0, m => some m
  | n + 1, m =>
      match step m with
      | some m => stepTimes step n m
      | none => none

/-- Counts the same several times. -/
def times (count : Count) (n : Nat) : Count :=
  ⟨stepTimes count.forwards n, stepTimes count.backwards n⟩

end Count

end Pattern

end BundleConfig
