import BundleConfig.Pattern.Fault
import BundleConfig.Text.Basic

/-!
# Sources of patterns

A reader is a step on a `Source`: the characters left, whether blanks and
comments are ignored, and the groups seen.  It may refuse, and then the text is
not a pattern.

Where blanks are ignored, a comment runs from a number sign to the end of the
line.
-/

namespace BundleConfig

namespace Pattern

/-- The name of a group. -/
structure GroupName where
  /-- The name. -/
  name : String
  /-- The number of the group. -/
  number : Nat
  /-- Where the name stands. -/
  place : Place

/-- What a reader works on. -/
structure Source where
  /-- The characters left. -/
  rest : List Char
  /-- Whether blanks and comments are ignored. -/
  verbose : Bool := false
  /-- How many groups were opened. -/
  groups : Nat := 0
  /-- The names of groups. -/
  names : List GroupName := []

/-- A step that may refuse. -/
abbrev Reader (α : Type) := Source → Except Refusal (α × Source)

namespace Reader

@[always_inline]
instance : Monad Reader where
  pure a := fun s => .ok (a, s)
  bind step next := fun s =>
    match step s with
    | .ok (a, s) => next a s
    | .error r => .error r

/-- Refuses the pattern for a fault at a place. -/
@[inline] def refuse {α : Type} (fault : Fault) (place : Place) : Reader α :=
  fun _ => .error { fault, place }

/-- Refuses the pattern for a fault at a place unless the condition holds. -/
@[inline] def require (condition : Bool) (fault : Fault) (place : Place) : Reader Unit :=
  fun s => if condition then .ok ((), s) else .error { fault, place }

/-- The result of a choice that may be refused. -/
@[inline] def accept {α : Type} (choice : Except Refusal α) : Reader α :=
  fun s => choice.map fun a => (a, s)

/-- The result of a choice that may be missing, for a fault at a place. -/
@[inline] def demand {α : Type} (choice : Option α) (fault : Fault) (place : Place) : Reader α :=
  match choice with
  | some a => pure a
  | none => refuse fault place

/-- The characters left. -/
@[inline] def peek : Reader (List Char) := fun s => .ok (s.rest, s)

/-- Goes on with other characters. -/
@[inline] def goTo (rest : List Char) : Reader Unit := fun s => .ok ((), { s with rest })

/-- Whether blanks and comments are ignored. -/
@[inline] def isVerbose : Reader Bool := fun s => .ok (s.verbose, s)

/-- Says whether blanks and comments are ignored from here on. -/
@[inline] def setVerbose (verbose : Bool) : Reader Unit := fun s => .ok ((), { s with verbose })

/-- Opens a numbered group. -/
def openGroup : Reader Nat := fun s =>
  let number := s.groups + 1
  .ok (number, { s with groups := number })

/-- Opens a numbered group with a name, which is not used twice. -/
def openNamedGroup (name : String) (place : Place) : Reader Nat := fun s =>
  let number := s.groups + 1
  match s.names.find? (·.name == name) with
  | some earlier => .error ⟨.repeatedName, place, some earlier.place⟩
  | none => .ok (number, { s with groups := number, names := s.names ++ [⟨name, number, place⟩] })

/-- Takes the next character.  Without one the text is refused for a fault at a
place. -/
def next (fault : Fault) (place : Place) : Reader Char := fun s =>
  match s.rest with
  | c :: rest => .ok (c, { s with rest })
  | [] => .error { fault, place }

/-- Takes a character if it comes next. -/
def tryTake (c : Char) : Reader Bool := fun s =>
  match s.rest with
  | d :: rest => if c = d then .ok (true, { s with rest }) else .ok (false, s)
  | [] => .ok (false, s)

/-- Refuses the pattern for a fault from a place on if nothing is left. -/
def requireMore (fault : Fault) (start : List Char) : Reader Unit := fun s =>
  if s.rest.isEmpty then .error { fault, place := ⟨start, s.rest⟩ } else .ok ((), s)

end Reader

/-! ## Blanks and comments -/

/-- The characters after blanks and comments.  `comment` tells that a comment is
open. -/
def dropComments : (comment : Bool) → List Char → List Char
  | _, [] => []
  | true, c :: rest => dropComments (c != '\n') rest
  | false, c :: rest =>
      if Text.isBlank c then dropComments false rest
      else if c = '#' then dropComments true rest
      else c :: rest

/-- The leading characters that pass a test, and what follows them.  In verbose
patterns blanks and comments around each are left out. -/
def takeRun (test : Char → Bool) (verbose : Bool) :
    (comment : Bool) → List Char → List Char × List Char
  | _, [] => ([], [])
  | true, c :: rest => takeRun test verbose (c != '\n') rest
  | false, c :: rest =>
      if verbose && Text.isBlank c then takeRun test verbose false rest
      else if verbose && c == '#' then takeRun test verbose true rest
      else if test c then
        let (taken, after) := takeRun test verbose false rest
        (c :: taken, after)
      else ([], c :: rest)

/-- The first character of a text as it is seen from outside of it.  In verbose
patterns blanks do not count, nor does the number sign of one comment, but the
comment itself does.  When nothing counts, it is the first character after
all. -/
def glimpse (verbose : Bool) (cs : List Char) : Option Char :=
  if verbose then
    let shown := cs.filter fun c => !Text.isBlank c
    let shown := if shown.head? = some '#' then shown.tail else shown
    shown.head?.orElse fun _ => cs.head?
  else cs.head?

namespace Reader

/-- Passes over blanks and comments where they are ignored. -/
def skip : Reader Unit := fun s =>
  .ok ((), if s.verbose then { s with rest := dropComments false s.rest } else s)

/-- Takes the leading characters that pass a test. -/
def run (test : Char → Bool) : Reader (List Char) := fun s =>
  let (taken, rest) := takeRun test s.verbose false s.rest
  .ok (taken, { s with rest })

end Reader

end Pattern

end BundleConfig
