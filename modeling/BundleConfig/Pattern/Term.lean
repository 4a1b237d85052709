import BundleConfig.Pattern.Fault
import BundleConfig.Unicode.Property

/-!
# Terms

A *term* is the written form of a pattern as a tree.  What it means depends on
the flags in force, and terms can change the flags for what follows.  The parts of
a term know where they stand in the text.

The depth of a term counts what nests: groups, repetitions, brackets,
combinations of classes, and whatever has several parts.
-/

namespace BundleConfig

open Unicode (CharSet PropertyQuery)

namespace Pattern

/-! ## Flags -/

/-- What can be switched on and off. -/
inductive Flag
  /-- Letters match their case variants. -/
  | ignoreCase
  /-- The marks `^` and `$` match at lines. -/
  | multiLine
  /-- The dot matches line ends. -/
  | dotAll
  /-- Repetitions are reluctant unless marked. -/
  | swapGreed
  /-- Classes have their Unicode meaning. -/
  | unicode
  /-- Blanks and comments are ignored. -/
  | verbose
  /-- Carriage returns end lines. -/
  | carriageReturn
deriving DecidableEq

/-- Flags that are switched, each on or off. -/
abbrev FlagChange := List (Flag × Bool)

/-- What a change does to a flag, if anything. -/
def FlagChange.state? (change : FlagChange) (f : Flag) : Option Bool :=
  (change.find? (·.1 == f)).map (·.2)

/-! ## Characters and classes -/

/-- A character that stands for itself. -/
structure Literal where
  /-- The character. -/
  letter : Char
  /-- Whether it is written as two hexadecimal digits. -/
  isByte : Bool
  /-- Where it stands. -/
  place : Place

/-- The classes with letters of their own. -/
inductive LetterClass
  | digit
  | space
  | word
deriving DecidableEq

/-- A class that is named by an escape. -/
inductive NamedClass
  /-- A class with a letter. -/
  | letter (kind : LetterClass) (negated : Bool)
  /-- The characters with a property. -/
  | property (query : PropertyQuery) (negated : Bool)

/-- How two classes combine. -/
inductive Combination
  | intersection
  | difference
  | symmetricDifference
deriving DecidableEq

/-- A class in its written form. -/
inductive ClassTerm
  /-- Nothing. -/
  | empty (place : Place)
  /-- A character. -/
  | letter (c : Literal)
  /-- The characters between two. -/
  | range (low high : Literal)
  /-- A class by its name between colons. -/
  | ascii (place : Place) (set : CharSet) (negated : Bool)
  /-- A class by an escape. -/
  | named (place : Place) (name : NamedClass)
  /-- A class between brackets. -/
  | bracket (place : Place) (negated : Bool) (inner : ClassTerm)
  /-- Several items. -/
  | union (place : Place) (items : List ClassTerm)
  /-- Two classes combined. -/
  | combined (place : Place) (how : Combination) (left right : ClassTerm)

namespace ClassTerm

/-- Where a class stands. -/
def place : ClassTerm → Place
  | empty place => place
  | letter c => c.place
  | range low high => ⟨low.place.start, high.place.stop⟩
  | ascii place _ _ => place
  | named place _ => place
  | bracket place _ _ => place
  | union place _ => place
  | combined place _ _ _ => place

/-- The class of items, given last first, which end before `rest`. -/
def ofItems (rest : List Char) (items : List ClassTerm) : ClassTerm :=
  match items with
  | [] => empty (.before rest)
  | [item] => item
  | last :: others =>
      let first := others.getLastD last
      union ⟨first.place.start, last.place.stop⟩ items.reverse

end ClassTerm

/-! ## Terms -/

/-- A place that is marked. -/
inductive Mark
  /-- The mark `^`. -/
  | start
  /-- The mark `$`. -/
  | stop
  | textStart
  | textEnd
  | wordBoundary
  | noWordBoundary
  | wordStart
  | wordEnd
  | wordStartHalf
  | wordEndHalf
deriving DecidableEq

/-- The written form of a pattern. -/
inductive Term
  /-- Nothing. -/
  | empty (place : Place)
  /-- Switches flags for what follows in the same group. -/
  | flags (place : Place) (change : FlagChange)
  /-- A character. -/
  | letter (c : Literal)
  /-- The dot. -/
  | dot (place : Place)
  /-- A mark. -/
  | mark (place : Place) (which : Mark)
  /-- A character of a class. -/
  | oneOf (members : ClassTerm)
  /-- A repetition. -/
  | repeated (place : Place) (body : Term) (least : Nat) (most : Option Nat) (reluctant : Bool)
  /-- A numbered group. -/
  | group (place : Place) (number : Nat) (body : Term)
  /-- A group without a number that switches flags inside. -/
  | plainGroup (place : Place) (change : FlagChange) (body : Term)
  /-- Options. -/
  | choice (place : Place) (options : List Term)
  /-- Parts in order. -/
  | sequence (place : Place) (parts : List Term)

namespace Term

/-- Where a term stands. -/
def place : Term → Place
  | empty place => place
  | flags place _ => place
  | letter c => c.place
  | dot place => place
  | mark place _ => place
  | oneOf members => members.place
  | repeated place _ _ _ _ => place
  | group place _ _ => place
  | plainGroup place _ _ => place
  | choice place _ => place
  | sequence place _ => place

/-- The term of parts at a place, given last first. -/
def ofParts (place : Place) (parts : List Term) : Term :=
  match parts with
  | [] => empty place
  | [part] => part
  | parts => sequence place parts.reverse

/-- The term of options at a place, given last first. -/
def ofOptions (place : Place) (options : List Term) : Term :=
  match options with
  | [] => empty place
  | [option] => option
  | options => choice place options.reverse

end Term

/-! ## Depth -/

/-- What nests at a place, where so many levels are left.  `inside` is what it
says of its inside. -/
def nested (place : Place) (inside : Nat → Option Place) : (levels : Nat) → Option Place
  | 0 => some place
  | levels + 1 => inside levels

mutual

/-- Where a class first nests deeper than so many levels. -/
def ClassTerm.tooDeep? : ClassTerm → (levels : Nat) → Option Place
  | .bracket place _ inner, levels => nested place (fun levels => inner.tooDeep? levels) levels
  | .union place items, levels =>
      nested place (fun levels => ClassTerm.anyTooDeep? items levels) levels
  | .combined place _ left right, levels =>
      nested place (fun levels => (left.tooDeep? levels).orElse fun _ => right.tooDeep? levels)
        levels
  | _, _ => none

/-- Where the first of several classes nests deeper than so many levels. -/
def ClassTerm.anyTooDeep? : List ClassTerm → (levels : Nat) → Option Place
  | [], _ => none
  | item :: items, levels =>
      (item.tooDeep? levels).orElse fun _ => ClassTerm.anyTooDeep? items levels

end

mutual

/-- Where a term first nests deeper than so many levels. -/
def Term.tooDeep? : Term → (levels : Nat) → Option Place
  | .oneOf members, levels => members.tooDeep? levels
  | .repeated place body _ _ _, levels => nested place (fun levels => body.tooDeep? levels) levels
  | .group place _ body, levels => nested place (fun levels => body.tooDeep? levels) levels
  | .plainGroup place _ body, levels => nested place (fun levels => body.tooDeep? levels) levels
  | .choice place options, levels =>
      nested place (fun levels => Term.anyTooDeep? options levels) levels
  | .sequence place parts, levels =>
      nested place (fun levels => Term.anyTooDeep? parts levels) levels
  | _, _ => none

/-- Where the first of several terms nests deeper than so many levels. -/
def Term.anyTooDeep? : List Term → (levels : Nat) → Option Place
  | [], _ => none
  | term :: terms, levels =>
      (term.tooDeep? levels).orElse fun _ => Term.anyTooDeep? terms levels

end

end Pattern

end BundleConfig
