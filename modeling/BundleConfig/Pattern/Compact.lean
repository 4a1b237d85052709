import BundleConfig.Pattern.Basic

/-!
# Compact patterns

Ways to put patterns together that keep them small.  A sequence has no parts
that are empty, sequences or adjacent letters.  A choice has no options that are
choices.  Options that all take one character become one set, and options that
begin with the same parts have these parts in front.  A repetition whose rounds
match the empty text only has at most one.

The texts that match stay the same, and so does the preference among them.
-/

namespace BundleConfig

open Unicode (CharSet)

namespace Pattern

/-! ## Sets -/

/-- The pattern without matches. -/
def nothing : Pattern := one CharSet.empty

/-- One character of a set. -/
def ofSet (set : CharSet) : Pattern :=
  match set.only? with
  | some c => letters [c]
  | none => one set

/-! ## Sequences -/

/-- The parts of a pattern that stands in a sequence. -/
def parts : Pattern → List Pattern
  | empty => []
  | sequence ps => ps
  | p => [p]

/-- Parts with one before them.  Letters are joined. -/
def attach : Pattern → List Pattern → List Pattern
  | letters s, letters t :: rest => letters (s ++ t) :: rest
  | p, rest => p :: rest

/-- All patterns in order. -/
def inSequence (ps : List Pattern) : Pattern :=
  match (ps.flatMap parts).foldr attach [] with
  | [] => empty
  | [p] => p
  | ps => sequence ps

/-! ## Choices -/

/-- The options of a pattern that stands in a choice. -/
def options : Pattern → List Pattern
  | choice ps => ps
  | p => [p]

/-- The code of a pattern that is a single letter. -/
def letterCode? : Pattern → Option Nat
  | letters [c] => some c.toNat
  | _ => none

/-- The set of a pattern that is one. -/
def set? : Pattern → Option CharSet
  | one set => some set
  | _ => none

/-- The first of several options, given without choices among them.  Those that
take one character become one set. -/
def anyOf (ps : List Pattern) : Pattern :=
  match ps with
  | [] => nothing
  | [p] => p
  | ps =>
      match ps.mapM letterCode? with
      | some codes => ofSet (CharSet.ofCodes codes)
      | none =>
          match ps.mapM set? with
          | some sets => ofSet (CharSet.unions sets)
          | none => choice ps

/-- The parts of a pattern that is a sequence. -/
def sequence? : Pattern → Option (List Pattern)
  | sequence ps => some ps
  | _ => none

/-- The parts that two sequences begin with. -/
def sharedStart : List Pattern → List Pattern → List Pattern
  | p :: ps, q :: qs => if p.same q then p :: sharedStart ps qs else []
  | _, _ => []

/-- What all of several sequences begin with, and what follows in each. -/
def commonStart? (ps : List Pattern) : Option (List Pattern × List (List Pattern)) :=
  match ps.mapM sequence? with
  | some (first :: second :: others) =>
      let start := (second :: others).foldl sharedStart first
      if start.isEmpty then none
      else some (start, (first :: second :: others).map (·.drop start.length))
  | _ => none

/-- The first of several options. -/
def inChoice (ps : List Pattern) : Pattern :=
  let ps := ps.flatMap options
  match commonStart? ps with
  | some (start, ends) => inSequence (start ++ [anyOf ((ends.map inSequence).flatMap options)])
  | none => anyOf ps

/-! ## Repetitions -/

/-- A repetition. -/
def inRounds (body : Pattern) (least : Nat) (most : Option Nat) (greedy : Bool) : Pattern :=
  let least := if body.isEmptyOnly then min least 1 else least
  let most := if body.isEmptyOnly then some (min (most.getD 1) 1) else most
  if least = 0 ∧ most = some 0 then empty
  else if least = 1 ∧ most = some 1 then body
  else rounds body least most greedy

end Pattern

end BundleConfig
