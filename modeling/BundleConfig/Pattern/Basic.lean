import BundleConfig.Unicode.Derived

/-!
# Patterns

A *pattern* describes texts: letters, single characters of a set, patterns one
after another, one of several, repetitions and numbered groups.  Assertions
match between two characters and use none.

Order matters.  Of several options the first is preferred, and a repetition
prefers more rounds when it is greedy and fewer when it is not.
-/

namespace BundleConfig

open Unicode (CharSet)

/-- A condition on the place between two characters. -/
inductive Assertion
  | textStart
  | textEnd
  /-- At the start or after a line end.  With the flag both `\r` and `\n` end
  lines, and `\r\n` ends one. -/
  | lineStart (carriageReturn : Bool)
  | lineEnd (carriageReturn : Bool)
  /-- Between a word character and another one.  With the flag only ASCII
  characters make words. -/
  | wordBoundary (ascii : Bool)
  | noWordBoundary (ascii : Bool)
  | wordStart (ascii : Bool)
  | wordEnd (ascii : Bool)
  | wordStartHalf (ascii : Bool)
  | wordEndHalf (ascii : Bool)
deriving DecidableEq

/-- A regular expression. -/
inductive Pattern
  /-- The empty text. -/
  | empty
  /-- The given letters. -/
  | letters (text : List Char)
  /-- One character of a set. -/
  | one (set : CharSet)
  /-- A place between characters. -/
  | assert (condition : Assertion)
  /-- All parts in order. -/
  | sequence (parts : List Pattern)
  /-- The first option or else one of the others. -/
  | choice (options : List Pattern)
  /-- Between `least` and `most` rounds of the body. -/
  | rounds (body : Pattern) (least : Nat) (most : Option Nat) (greedy : Bool)
  /-- A group that remembers what its body matched. -/
  | group (number : Nat) (body : Pattern)

namespace Assertion

/-- Whether a character makes words. -/
def isWordCharacter (ascii : Bool) (c : Option Char) : Bool :=
  match c with
  | none => false
  | some c => if ascii then c.isAlphanum || c == '_' else Unicode.isWord c

/-- Whether the condition holds between two characters, of which the first is
missing at the start and the second at the end. -/
def holds (before after : Option Char) : Assertion → Bool
  | textStart => before.isNone
  | textEnd => after.isNone
  | lineStart false => before.all (· == '\n')
  | lineStart true =>
      before.all fun c => c == '\n' || (c == '\r' && after != some '\n')
  | lineEnd false => after.all (· == '\n')
  | lineEnd true =>
      after.all fun c => c == '\r' || (c == '\n' && before != some '\r')
  | wordBoundary ascii => isWordCharacter ascii before != isWordCharacter ascii after
  | noWordBoundary ascii => isWordCharacter ascii before == isWordCharacter ascii after
  | wordStart ascii => !isWordCharacter ascii before && isWordCharacter ascii after
  | wordEnd ascii => isWordCharacter ascii before && !isWordCharacter ascii after
  | wordStartHalf ascii => !isWordCharacter ascii before
  | wordEndHalf ascii => !isWordCharacter ascii after

end Assertion

namespace Pattern

/-! ## Equality -/

mutual

/-- Whether two patterns are the same. -/
def same : Pattern → Pattern → Bool
  | empty, empty => true
  | letters s, letters t => s == t
  | one s, one t => s == t
  | assert c, assert d => c == d
  | sequence ps, sequence qs => sameAll ps qs
  | choice ps, choice qs => sameAll ps qs
  | rounds p least most greedy, rounds q least' most' greedy' =>
      p.same q && least == least' && most == most' && greedy == greedy'
  | group number p, group number' q => number == number' && p.same q
  | _, _ => false

/-- Whether two lists of patterns are the same. -/
def sameAll : List Pattern → List Pattern → Bool
  | [], [] => true
  | p :: ps, q :: qs => p.same q && sameAll ps qs
  | _, _ => false

end

/-! ## The lengths of matches -/

mutual

/-- Whether every match is the empty text, and the pattern is not one without
matches for want of characters. -/
def isEmptyOnly : Pattern → Bool
  | empty => true
  | letters text => text.isEmpty
  | one _ => false
  | assert _ => true
  | sequence parts => areEmptyOnly parts
  | choice options => areEmptyOnly options
  | rounds body _ most _ => most == some 0 || (most.isSome && body.isEmptyOnly)
  | group _ body => body.isEmptyOnly

/-- Whether every match of each pattern is the empty text. -/
def areEmptyOnly : List Pattern → Bool
  | [] => true
  | p :: ps => p.isEmptyOnly && areEmptyOnly ps

end

mutual

/-- The least length of a match, assertions taken as met.  There is none when a
part has no match for want of characters. -/
def leastLength : Pattern → Option Nat
  | empty => some 0
  | letters text => some text.length
  | one set => if set.ranges.isEmpty then none else some 1
  | assert _ => some 0
  | sequence parts => leastLengthOfAll parts
  | choice options => leastLengthOfAny options
  | rounds body least _ _ => body.leastLength.map (least * ·)
  | group _ body => body.leastLength

/-- The least length of a match of all patterns in order. -/
def leastLengthOfAll : List Pattern → Option Nat
  | [] => some 0
  | p :: ps => p.leastLength.bind fun n => (leastLengthOfAll ps).map (n + ·)

/-- The least length of a match of any of the patterns. -/
def leastLengthOfAny : List Pattern → Option Nat
  | [] => none
  | [p] => p.leastLength
  | p :: ps => p.leastLength.bind fun n => (leastLengthOfAny ps).map (min n)

end

/-- Whether the pattern can match the empty text, or nothing at all. -/
def canBeEmpty (p : Pattern) : Bool := p.leastLength.all (· == 0)

end Pattern

end BundleConfig
