import BundleConfig.Pattern.Class
import BundleConfig.Pattern.Reader.Escape

/-!
# Reading bracketed classes

Brackets hold characters, ranges and classes, which nest and combine by `&&`,
`--` and `~~`, from the left.  A caret after the opening bracket takes all other
characters.  Hyphens at the start stand for themselves, and so does a closing
bracket in the first place.

Further inside, a hyphen makes a range unless a closing bracket or another
hyphen is seen after it.

The readers that nest count down how many brackets may still be opened.  A text of
so many characters has no more.
-/

namespace BundleConfig

namespace Pattern

open Reader

/-! ## Items -/

/-- The character that an end of a range is, where it is one. -/
def rangeEnd (e : Escape) (place : Place) : Except Refusal Literal :=
  match e with
  | .letter c isByte => .ok ⟨c, isByte, place⟩
  | _ => .error { fault := .wrongBound, place }

/-- The item that a character or an escape is. -/
def classItem (e : Escape) (place : Place) : Except Refusal ClassTerm :=
  match e with
  | .letter c isByte => .ok (.letter ⟨c, isByte, place⟩)
  | .named name => .ok (.named place name)
  | .mark _ => .error { fault := .wrongMember, place }

/-- Reads a member of a class or a range of members.  The class was opened at
`opening`. -/
def classRange (opening : Place) : Reader ClassTerm := do
  let (first, firstPlace) ← escapable
  skip
  let rest ← peek
  require (!rest.isEmpty) .openClass opening
  let verbose ← isVerbose
  let isRange : Bool :=
    match rest with
    | '-' :: after =>
        let seen := glimpse verbose after
        seen != some ']' && seen != some '-'
    | _ => false
  if isRange then
    goTo rest.tail
    skip
    require (!(← peek).isEmpty) .openClass opening
    let (last, lastPlace) ← escapable
    let low ← accept (rangeEnd first firstPlace)
    let high ← accept (rangeEnd last lastPlace)
    let range := ClassTerm.range low high
    require (decide (low.letter ≤ high.letter)) .descendingRange range.place
    pure range
  else accept (classItem first firstPlace)

/-- A class such as `[:alpha:]` with its opening bracket at the start of a text, and
what follows. -/
def colonClass? (cs : List Char) : Option (ClassTerm × List Char) :=
  match cs with
  | '[' :: ':' :: inner =>
      let negated := inner.head? == some '^'
      let inner := if negated then inner.tail else inner
      match inner.dropWhile (· != ':'), bracketClass? (String.ofList (inner.takeWhile (· != ':')))
      with
      | ':' :: ']' :: after, some set => some (.ascii ⟨cs, after⟩ set negated, after)
      | _, _ => none
  | _ => none

/-- Two classes combined as said, if there is a first one. -/
def combine (left : Option (Combination × ClassTerm)) (right : ClassTerm) : ClassTerm :=
  match left with
  | none => right
  | some (how, left) => .combined ⟨left.place.start, right.place.stop⟩ how left right

/-- The combination that two characters stand for. -/
def combination? (cs : List Char) : Option (Combination × List Char) :=
  match cs with
  | '&' :: '&' :: rest => some (.intersection, rest)
  | '-' :: '-' :: rest => some (.difference, rest)
  | '~' :: '~' :: rest => some (.symmetricDifference, rest)
  | _ => none

/-- Reads the items of a class up to its closing bracket, at most as many as
`count`.  `items` holds those since the last combination, last first, and
`left` what combines with them.  `nested` reads further brackets, and `opening` is
where this one was opened. -/
def classItems (nested : Reader ClassTerm) (opening : Place) :
    (count : Nat) → (items : List ClassTerm) → (left : Option (Combination × ClassTerm)) →
      Reader ClassTerm
  | 0, _, _ => refuse .openClass opening
  | count + 1, items, left => do
      skip
      let rest ← peek
      match rest with
      | [] => refuse .openClass opening
      | ']' :: after => do
          goTo after
          pure (combine left (ClassTerm.ofItems rest items))
      | '[' :: _ =>
          match colonClass? rest with
          | some (item, after) => do
              goTo after
              classItems nested opening count (item :: items) left
          | none => do
              let item ← nested
              classItems nested opening count (item :: items) left
      | _ =>
          match combination? rest with
          | some (how, after) => do
              goTo after
              let left := combine left (ClassTerm.ofItems rest items)
              classItems nested opening count [] (some (how, left))
          | none => do
              let item ← classRange opening
              classItems nested opening count (item :: items) left

/-! ## Brackets -/

/-- Reads an opening bracket, which stands at `start`, the caret after it and the
characters that stand for themselves there. -/
def classStart (start : List Char) : Reader (Bool × List ClassTerm) := do
  goTo start.tail
  skip
  requireMore .openClass start
  let negated ← tryTake '^'
  skip
  requireMore .openClass start
  let first ← peek
  let hyphens ← run (· == '-')
  let rest ← peek
  require (!rest.isEmpty || hyphens.isEmpty) .openClass (.before start)
  let literal (c : Char) : ClassTerm := .letter ⟨c, false, ⟨first, rest⟩⟩
  if hyphens.isEmpty then
    if ← tryTake ']' then
      skip
      requireMore .openClass start
      pure (negated, [literal ']'])
    else pure (negated, [])
  else pure (negated, hyphens.map literal)

/-- Reads a class from its opening bracket on, where at most so many characters are
left. -/
def bracketed : (size : Nat) → Reader ClassTerm
  | 0 => do refuse .openClass (.before (← peek))
  | size + 1 => do
      let start ← peek
      let (negated, items) ← classStart start
      let rest ← peek
      let inner ← classItems (bracketed size) ⟨start, rest⟩ (size + 1) items none
      let stop ← peek
      pure (.bracket ⟨start, stop⟩ negated inner)

end Pattern

end BundleConfig
