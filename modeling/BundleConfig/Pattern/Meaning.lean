import BundleConfig.Pattern.Class
import BundleConfig.Pattern.Compact

/-!
# The meaning of terms

A term means a pattern under the flags in force, and tells the flags in force
after it.  Flags without a body hold for what follows in the same group, in later
options too.

Case is ignored before a class is turned into its opposite, so the opposite of a
class has no case variant of its members.  The classes of `\d`, `\s` and `\w` are
taken as they are.

Without the Unicode meaning, classes have ASCII characters only.  Their opposites
would have bytes that are no characters, and so would the dot.  Then a term has
no meaning.
-/

namespace BundleConfig

open Unicode (CharSet PropertyQuery)

namespace Pattern

/-! ## Flags -/

/-- The flags in force. -/
structure Flags where
  /-- Letters match their case variants. -/
  ignoreCase : Bool := false
  /-- The marks `^` and `$` match at lines. -/
  multiLine : Bool := false
  /-- The dot matches line ends. -/
  dotAll : Bool := false
  /-- Repetitions are reluctant unless marked. -/
  swapGreed : Bool := false
  /-- Classes have their Unicode meaning. -/
  unicode : Bool := true
  /-- Carriage returns end lines. -/
  carriageReturn : Bool := false

/-- The flags with one switched.  Ignoring blanks does not matter once a term is
read. -/
def Flags.set (f : Flags) : Flag × Bool → Flags
  | (.ignoreCase, on) => { f with ignoreCase := on }
  | (.multiLine, on) => { f with multiLine := on }
  | (.dotAll, on) => { f with dotAll := on }
  | (.swapGreed, on) => { f with swapGreed := on }
  | (.unicode, on) => { f with unicode := on }
  | (.carriageReturn, on) => { f with carriageReturn := on }
  | (.verbose, _) => f

/-- The flags after a change. -/
def Flags.apply (f : Flags) (change : FlagChange) : Flags := change.foldl Flags.set f

/-! ## Classes -/

/-- A set with case variants where case is ignored. -/
def Flags.widen (f : Flags) (set : CharSet) : CharSet :=
  if f.ignoreCase then (if f.unicode then set.fold else set.foldAscii) else set

/-- A set or its opposite, for a class at a place. -/
def Flags.orOpposite (f : Flags) (place : Place) (negated : Bool) (set : CharSet) :
    Except Refusal CharSet :=
  if negated then
    if f.unicode then .ok set.complement else .error { fault := .noCharacter, place }
  else .ok set

/-- Refuses a character that has no place in a class. -/
def Flags.requireMember (f : Flags) (c : Literal) : Except Refusal Unit :=
  if f.unicode || c.letter.toNat < 128 then .ok ()
  else .error { fault := if c.isByte then .noCharacter else .notUnicode, place := c.place }

/-- The set of a property, for a class at a place. -/
def propertySet (place : Place) (query : PropertyQuery) : Except Refusal CharSet :=
  match query.set with
  | .ok set => .ok set
  | .error .unknownName => .error { fault := .unknownProperty, place }
  | .error .unknownValue => .error { fault := .unknownValue, place }

/-- The set of a class by an escape at a place. -/
def NamedClass.set (f : Flags) (place : Place) : NamedClass → Except Refusal CharSet
  | letter kind negated => f.orOpposite place negated (kind.set f.unicode)
  | property query negated =>
      if f.unicode then do f.orOpposite place negated (f.widen (← propertySet place query))
      else .error { fault := .notUnicode, place }

/-- Two sets combined. -/
def Combination.apply (how : Combination) (s t : CharSet) : CharSet :=
  match how with
  | intersection => s.inter t
  | difference => s.diff t
  | symmetricDifference => s.symmDiff t

mutual

/-- The set of a class. -/
def ClassTerm.set (f : Flags) : ClassTerm → Except Refusal CharSet
  | empty _ => .ok CharSet.empty
  | letter c => do
      f.requireMember c
      pure (CharSet.single c.letter)
  | range low high => do
      f.requireMember low
      f.requireMember high
      pure (CharSet.ofRange low.letter.toNat high.letter.toNat)
  | ascii place set negated => f.orOpposite place negated (f.widen set)
  | named place name => name.set f place
  | bracket place negated inner => do
      let set ← inner.set f
      f.orOpposite place negated (f.widen set)
  | union _ items => do pure (CharSet.unions (← ClassTerm.sets f items))
  | combined _ how left right => do
      let s ← left.set f
      let t ← right.set f
      pure (how.apply (f.widen s) (f.widen t))

/-- The sets of classes. -/
def ClassTerm.sets (f : Flags) : List ClassTerm → Except Refusal (List CharSet)
  | [] => .ok []
  | item :: items => do
      let s ← item.set f
      let others ← ClassTerm.sets f items
      pure (s :: others)

end

/-! ## Single characters and places -/

/-- The pattern of a character that stands for itself. -/
def Flags.letter (f : Flags) (c : Literal) : Except Refusal Pattern :=
  if c.isByte && !f.unicode && c.letter.toNat ≥ 128 then
    .error { fault := .noCharacter, place := c.place }
  else .ok (ofSet (f.widen (CharSet.single c.letter)))

/-- The pattern of the dot at a place. -/
def Flags.dot (f : Flags) (place : Place) : Except Refusal Pattern :=
  let lineEnds : List Nat := if f.carriageReturn then [10, 13] else [10]
  if !f.unicode then .error { fault := .noCharacter, place }
  else .ok (one (if f.dotAll then CharSet.all else CharSet.all.diff (CharSet.ofCodes lineEnds)))

/-- The assertion of a mark. -/
def Flags.assertion (f : Flags) : Mark → Assertion
  | .start => if f.multiLine then .lineStart f.carriageReturn else .textStart
  | .stop => if f.multiLine then .lineEnd f.carriageReturn else .textEnd
  | .textStart => .textStart
  | .textEnd => .textEnd
  | .wordBoundary => .wordBoundary (!f.unicode)
  | .noWordBoundary => .noWordBoundary (!f.unicode)
  | .wordStart => .wordStart (!f.unicode)
  | .wordEnd => .wordEnd (!f.unicode)
  | .wordStartHalf => .wordStartHalf (!f.unicode)
  | .wordEndHalf => .wordEndHalf (!f.unicode)

/-! ## Terms -/

mutual

/-- The pattern of a term, and the flags in force after it. -/
def Term.meaning (f : Flags) : Term → Except Refusal (Pattern × Flags)
  | empty _ => .ok (.empty, f)
  | flags _ change => .ok (.empty, f.apply change)
  | letter c => do pure (← f.letter c, f)
  | dot place => do pure (← f.dot place, f)
  | mark _ which => .ok (.assert (f.assertion which), f)
  | oneOf members => do pure (ofSet (← members.set f), f)
  | repeated _ body least most reluctant => do
      let (p, f) ← body.meaning f
      pure (inRounds p least most (reluctant == f.swapGreed), f)
  | group _ number body => do
      let (p, _) ← body.meaning f
      pure (.group number p, f)
  | plainGroup _ change body => do
      let (p, _) ← body.meaning (f.apply change)
      pure (p, f)
  | choice _ options => do
      let (ps, f) ← Term.meanings f options
      pure (inChoice ps, f)
  | sequence _ parts => do
      let (ps, f) ← Term.meanings f parts
      pure (inSequence ps, f)

/-- The patterns of terms in order, and the flags in force after them. -/
def Term.meanings (f : Flags) : List Term → Except Refusal (List Pattern × Flags)
  | [] => .ok ([], f)
  | term :: terms => do
      let (p, f) ← term.meaning f
      let (ps, f) ← Term.meanings f terms
      pure (p :: ps, f)

end

end Pattern

end BundleConfig
