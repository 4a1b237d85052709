import BundleConfig.Pattern.Basic

/-!
# Programs of patterns

A pattern is turned into a *program*, a list of instructions that name their
successors.  A `choose` instruction tries its successors in order.  Required
rounds of a repetition are written out, further rounds up to a bound become
nested choices, and rounds without a bound become a loop.

A loop over a body that can match the empty text is entered by a choice of its
own, as one round or none.  So an empty round counts as a round, and preference
is the same as for one that is written out.

`Pattern.build` adds the instructions of a pattern in front of those that
follow it and gives the place to start.
-/

namespace BundleConfig

open Unicode (CharSet)

/-- One step of a program. -/
inductive Instruction
  /-- The text matches. -/
  | accept
  /-- Uses one letter. -/
  | letter (c : Char) (next : Nat)
  /-- Uses one character of a set. -/
  | one (set : CharSet) (next : Nat)
  /-- Goes on where a condition holds. -/
  | assert (condition : Assertion) (next : Nat)
  /-- Goes on at one of several places, the first preferred. -/
  | choose (places : List Nat)
  /-- Writes the place in the text into a slot. -/
  | remember (slot : Nat) (next : Nat)

/-- The instructions, by their place. -/
abbrev Program := Array Instruction

namespace Pattern

/-- A way to put instructions before the place `next`.  It gives the place to
start. -/
abbrev Builder := (next : Nat) → Program → Nat × Program

/-- The program with one more instruction, and its place. -/
def emit (instruction : Instruction) (code : Program) : Nat × Program :=
  (code.size, code.push instruction)

/-- Letters in order. -/
def buildLetters (text : List Char) (next : Nat) (code : Program) : Nat × Program :=
  text.foldr (fun c (next, code) => emit (.letter c next) code) (next, code)

/-- Two places in order of preference. -/
def inOrder (greedy : Bool) (inside outside : Nat) : Instruction :=
  .choose (if greedy then [inside, outside] else [outside, inside])

/-- The body a number of times. -/
def exactly (body : Builder) : (count : Nat) → Builder
  | 0, next, code => (next, code)
  | count + 1, next, code =>
      let (place, code) := body next code
      exactly body count place code

/-- The body up to a number of times before the place `next`.  Every choice not
to go on leads to `exit`. -/
def atMost (body : Builder) (greedy : Bool) (exit : Nat) : (count : Nat) → Builder
  | 0, next, code => (next, code)
  | count + 1, next, code =>
      let (inside, code) := body next code
      let (place, code) := emit (inOrder greedy inside exit) code
      atMost body greedy exit count place code

/-- The body in a loop.  Gives the place of the choice after a round, and that of
a round. -/
def loop (body : Builder) (greedy : Bool) (next : Nat) (code : Program) : Nat × Nat × Program :=
  let (place, code) := emit (.choose []) code
  let (inside, code) := body place code
  (place, inside, code.setIfInBounds place (inOrder greedy inside next))

/-- A repetition of a body that can be empty or not. -/
def buildRounds (body : Builder) (canBeEmpty : Bool) (least : Nat) (most : Option Nat)
    (greedy : Bool) (next : Nat) (code : Program) : Nat × Program :=
  match least, most with
  | least, some most =>
      let (after, code) := atMost body greedy next (most - least) next code
      exactly body least after code
  | 0, none =>
      let (place, inside, code) := loop body greedy next code
      if canBeEmpty then emit (inOrder greedy inside next) code else (place, code)
  | least + 1, none =>
      let (_, inside, code) := loop body greedy next code
      exactly body least inside code

mutual

/-- Puts the instructions of a pattern before the place `next`. -/
def build : Pattern → Builder
  | empty, next, code => (next, code)
  | letters text, next, code => buildLetters text next code
  | one set, next, code => emit (.one set next) code
  | assert condition, next, code => emit (.assert condition next) code
  | sequence parts, next, code => buildParts parts next code
  | choice options, next, code =>
      let (places, code) := buildOptions options next code
      emit (.choose places) code
  | rounds body least most greedy, next, code =>
      buildRounds body.build body.canBeEmpty least most greedy next code
  | group number body, next, code =>
      let (after, code) := emit (.remember (2 * number + 1) next) code
      let (inside, code) := body.build after code
      emit (.remember (2 * number) inside) code

/-- Puts the instructions of patterns in order before the place `next`. -/
def buildParts : List Pattern → Builder
  | [], next, code => (next, code)
  | p :: ps, next, code =>
      let (middle, code) := buildParts ps next code
      p.build middle code

/-- Puts the instructions of options before the place `next`.  Gives the places to
start each. -/
def buildOptions : List Pattern → (next : Nat) → Program → List Nat × Program
  | [], _, code => ([], code)
  | p :: ps, next, code =>
      let (place, code) := p.build next code
      let (places, code) := buildOptions ps next code
      (place :: places, code)

end

/-- The program of a pattern and its start.  The first two slots hold the ends of
the match. -/
def compile (p : Pattern) : Nat × Program :=
  (group 0 p).build 0 #[.accept]

end Pattern

end BundleConfig
