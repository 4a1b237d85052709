import BundleConfig.Pattern.Basic
import BundleConfig.Pattern.Size.Letters
import BundleConfig.Pattern.Size.Set

/-!
# The size of patterns

The size of a pattern is that of an automaton that reads bytes, with every
required round of a repetition written out.  A pattern is used only if it is not
above `maxSize`, reading forwards and reading backwards.

A search may start anywhere, for which the automaton has three states more,
unless the pattern begins with an assertion of the start of the text.  Reading
backwards this is the end.  Groups are remembered when reading forwards only.
-/

namespace BundleConfig

namespace Pattern

/-! ## Anchors -/

mutual

/-- Whether every match begins where an assertion is met. -/
def opensWith (a : Assertion) : Pattern → Bool
  | assert c => c == a
  | sequence parts => openWith a parts
  | choice options => !options.isEmpty && allOpenWith a options
  | rounds body least _ _ => least != 0 && body.opensWith a
  | group _ body => body.opensWith a
  | _ => false

/-- Whether patterns in order begin where an assertion is met. -/
def openWith (a : Assertion) : List Pattern → Bool
  | [] => false
  | p :: ps => p.opensWith a || (p.isEmptyOnly && openWith a ps)

/-- Whether each pattern begins where an assertion is met. -/
def allOpenWith (a : Assertion) : List Pattern → Bool
  | [] => true
  | p :: ps => p.opensWith a && allOpenWith a ps

end

mutual

/-- Whether every match ends where an assertion is met. -/
def closesWith (a : Assertion) : Pattern → Bool
  | assert c => c == a
  | sequence parts => closeWith a parts
  | choice options => !options.isEmpty && allCloseWith a options
  | rounds body least _ _ => least != 0 && body.closesWith a
  | group _ body => body.closesWith a
  | _ => false

/-- Whether patterns in order end where an assertion is met. -/
def closeWith (a : Assertion) : List Pattern → Bool
  | [] => false
  | p :: ps => closeWith a ps || (areEmptyOnly ps && p.closesWith a)

/-- Whether each pattern ends where an assertion is met. -/
def allCloseWith (a : Assertion) : List Pattern → Bool
  | [] => true
  | p :: ps => p.closesWith a && allCloseWith a ps

end

/-! ## Patterns -/

/-- The letters of a pattern that is nothing else. -/
def letters? : Pattern → Option (List Char)
  | letters text => some text
  | _ => none

/-- Counts a repetition of a body that can be empty or not. -/
def Count.rounds (body : Count) (canBeEmpty : Bool) (least : Nat) (most : Option Nat) : Count :=
  let choice := Count.tally 1 (2 * linkSize)
  let meeting := Count.tally 1 0
  match least, most with
  | 0, some 1 => choice.andThen (body.andThen meeting)
  | 0, none =>
      if canBeEmpty then body.andThen (choice.andThen (choice.andThen meeting))
      else choice.andThen body
  | least + 1, none => (body.times (least + 1)).andThen choice
  | least, some most =>
      let required := if least = 0 then meeting else body.times least
      if least = most then required
      else
        required.andThen (meeting.andThen ((choice.andThen body).times (most - least)))

mutual

/-- Counts the states of a pattern. -/
def states : Pattern → Count
  | empty => Count.tally 1 0
  | letters text => Count.letters text
  | one set => Count.set set
  | assert _ => Count.tally 1 0
  | sequence parts => statesInOrder parts
  | choice options =>
      match options.mapM letters? with
      | some texts => Count.words texts
      | none => statesOfOptions options 0
  | rounds body least most _ => body.states.rounds body.canBeEmpty least most
  | group _ body =>
      let body := body.states
      ⟨((Count.tally 1 0).andThen (body.andThen (Count.tally 1 0))).forwards, body.backwards⟩

/-- Counts the states of patterns in order. -/
def statesInOrder : List Pattern → Count
  | [] => Count.tally 0 0
  | p :: ps => p.states.inOrder (statesInOrder ps)

/-- Counts the states of options, of which there are `before` more.  The choice
among them and the state where they meet follow the second. -/
def statesOfOptions : List Pattern → (before : Nat) → Count
  | [], _ => Count.tally 0 0
  | p :: ps, before =>
      let meeting := Count.tally (if before = 1 then 2 else 0) linkSize
      (p.states.andThen meeting).andThen (statesOfOptions ps (before + 1))

end

/-- Counts the states for a search that may start anywhere or not. -/
def Count.start (anchored : Bool) : Count :=
  if anchored then Count.tally 1 0 else Count.tally 3 (2 * linkSize + rangeSize)

/-- Counts the states that remember a match, and the one at its end. -/
def countMatch (p : Pattern) : Count := (group 0 p).states.andThen (Count.tally 1 0)

/-- Whether the pattern is small enough. -/
def fits (p : Pattern) : Bool :=
  let forwards := (Count.start (p.opensWith .textStart)).andThen p.countMatch
  let backwards := (Count.start (p.closesWith .textEnd)).andThen p.countMatch
  (forwards.forwards Meter.zero).isSome && (backwards.backwards Meter.zero).isSome

end Pattern

end BundleConfig
