import BundleConfig.Pattern.Reader.Bracket
import BundleConfig.Text.Basic
import BundleConfig.Unicode.Letter

/-!
# Reading terms

Parentheses group.  A group is numbered by its opening parenthesis unless flags
or `?:` stand after it.  Flags without a body hold up to the end of the enclosing
group.

*Flags.*  `i` ignores case, `m` lets `^` and `$` match at lines, `s` lets `.`
match line ends, `U` swaps greedy and reluctant, `u` is on and gives classes
their Unicode meaning, `x` ignores blanks and comments in the pattern, `R` lets
`\r\n` end lines.

Looking around is not part of the language.  A term nests to a depth of
`maxDepth` at most.
-/

namespace BundleConfig

namespace Pattern

open Reader

/-- How deep a term may nest. -/
def maxDepth : Nat := 250

/-! ## Repetitions -/

/-- Reads a count, with blanks around it.  Whether it is one is left to tell until
what follows is seen. -/
def count : Reader (Except Refusal Nat) := do
  let rest ← peek
  let start := rest.dropWhile Text.isBlank
  goTo start
  let digits ← run Char.isDigit
  let stop ← peek
  goTo (stop.dropWhile Text.isBlank)
  let value := Text.digitsValue digits
  if digits.isEmpty then pure (.error { fault := .noCount, place := ⟨start, stop⟩ })
  else if value < Nat.pow 2 32 then pure (.ok value)
  else pure (.error { fault := .wrongCount, place := ⟨start, stop⟩ })

/-- Reads the bounds of a counted repetition after its opening brace, which stands
at `start`. -/
def bounds (start : List Char) : Reader (Nat × Option Nat) := do
  skip
  requireMore .openCount start
  let least ← count
  requireMore .openCount start
  let most : Option Nat ←
    if ← tryTake ',' then do
      skip
      requireMore .openCount start
      match ← peek with
      | '}' :: _ => pure none
      | _ => do
          let _ ← accept least
          pure (some (← accept (← count)))
    else pure (some (← accept least))
  let least ← accept least
  let rest ← peek
  require (← tryTake '}') .openCount ⟨start, rest⟩
  skip
  pure (least, most)

/-- The last of the parts read so far, which there must be, and which must not be
flags, and the parts before it.  A repetition of it stands at `start`. -/
def lastPart (start : List Char) (parts : List Term) : Except Refusal (Term × List Term) :=
  match parts with
  | [] | .flags .. :: _ => .error { fault := .nothingToRepeat, place := .before start }
  | body :: before => .ok (body, before)

/-- Reads the rest of a repetition of a part. -/
def repetition (body : Term) (least : Nat) (most : Option Nat) : Reader Term := do
  let reluctant ← tryTake '?'
  let rest ← peek
  pure (.repeated ⟨body.place.start, rest⟩ body least most reluctant)

/-- Reads a sign for a repetition, with which the text starts, and puts the
repetition in the place of the last part. -/
def repeatLast (parts : List Term) (least : Nat) (most : Option Nat) : Reader (List Term) := do
  let start ← peek
  let (body, before) ← accept (lastPart start parts)
  goTo start.tail
  let part ← repetition body least most
  pure (part :: before)

/-- Reads a counted repetition, with which the text starts, and puts it in the
place of the last part. -/
def repeatCounted (parts : List Term) : Reader (List Term) := do
  let start ← peek
  let (body, before) ← accept (lastPart start parts)
  goTo start.tail
  let (least, most) ← bounds start
  let part ← repetition body least most
  let rest ← peek
  require (most.all fun most => decide (least ≤ most)) .descendingCounts ⟨start, rest⟩
  pure (part :: before)

/-! ## Groups -/

/-- The flag of a letter. -/
def flag? (letter : Char) : Option Flag :=
  match letter with
  | 'i' => some .ignoreCase
  | 'm' => some .multiLine
  | 's' => some .dotAll
  | 'U' => some .swapGreed
  | 'u' => some .unicode
  | 'x' => some .verbose
  | 'R' => some .carriageReturn
  | _ => none

/-- A flag that was given, and where. -/
structure GivenFlag where
  /-- The flag. -/
  flag : Flag
  /-- Whether it is switched on. -/
  on : Bool
  /-- Where it stands. -/
  place : Place

/-- Whether the letters of flags end here. -/
def endsFlags : List Char → Bool
  | ':' :: _ => true
  | ')' :: _ => true
  | _ => false

/-- The change that letters stand for, up to a colon or a closing parenthesis, and
what is left from there on.  Those after a hyphen switch off.  No flag is given
twice, nor a hyphen, which is not the last character either.  `seen` holds the
flags given before, last first, and `hyphen` is where a hyphen was. -/
def flagChange (seen : List GivenFlag) (hyphen : Option Place) :
    List Char → Except Refusal (FlagChange × List Char)
  | [] => .error { fault := .openFlags, place := .before [] }
  | c :: rest =>
      let place := Place.next (c :: rest)
      if endsFlags (c :: rest) then
        .ok (seen.reverse.map fun given => (given.flag, given.on), c :: rest)
      else if c = '-' then
        if hyphen.isSome then .error ⟨.repeatedHyphen, place, hyphen⟩
        else if endsFlags rest then .error { fault := .danglingHyphen, place }
        else flagChange seen (some place) rest
      else
        match flag? c with
        | none => .error { fault := .unknownFlag, place }
        | some f =>
            match seen.find? (·.flag == f) with
            | some earlier => .error ⟨.repeatedFlag, place, some earlier.place⟩
            | none => flagChange (⟨f, hyphen.isNone, place⟩ :: seen) hyphen rest

/-- Whether a character may stand in the name of a group, by whether it is the
first. -/
def isNameCharacter (first : Bool) (c : Char) : Bool :=
  if first then c == '_' || Unicode.isAlphabetic c
  else c == '_' || c == '.' || c == '[' || c == ']' || Unicode.isAlphanumeric c

/-- The leading characters that make the name of a group, and what follows them.
`first` tells whether the name starts here. -/
def takeName : (first : Bool) → List Char → List Char × List Char
  | _, [] => ([], [])
  | first, c :: rest =>
      if isNameCharacter first c then
        let (name, after) := takeName false rest
        (c :: name, after)
      else ([], c :: rest)

/-- Reads the name of a group up to the angle that closes it.  Tells also where it
stands. -/
def groupName : Reader (String × Place) := do
  let start ← peek
  let (name, stop) := takeName true start
  goTo stop
  requireMore .openName stop
  require (← tryTake '>') .wrongName (.next stop)
  require (!name.isEmpty) .emptyName (.before start)
  pure (String.ofList name, ⟨start, stop⟩)

/-- Reads the body of a group up to its closing parenthesis, and makes it a group
that stands where it was opened.  Whether blanks are ignored is as it was before,
which `outer` tells. -/
def groupBody (body : Reader Term) (outer : Bool) (start : List Char)
    (enclose : Place → Term → Term) : Reader Term := do
  let term ← body
  require (← tryTake ')') .openGroup (.next start)
  setVerbose outer
  let rest ← peek
  pure (enclose ⟨start, rest⟩ term)

/-- Reads a numbered group that was opened at `start`, with a name if it has
one. -/
def numberedGroup (body : Reader Term) (start : List Char) (named : Bool) : Reader Term := do
  let outer ← isVerbose
  let number ←
    if named then do
      let (name, place) ← groupName
      openNamedGroup name place
    else openGroup
  groupBody body outer start fun place term => .group place number term

/-- Reads flags after an opening parenthesis at `start` and a question mark, and
the group they are for, if any. -/
def flagGroup (body : Reader Term) (start : List Char) : Reader Term := do
  let mark ← peek
  let letters := mark.tail
  require (!letters.isEmpty) .openGroup (.next start)
  let (change, stop) ← accept (flagChange [] none letters)
  goTo stop.tail
  let rest ← peek
  let outer ← isVerbose
  if stop.head? = some ')' then
    require (!change.isEmpty) .nothingToRepeat (.before mark)
    setVerbose ((change.state? .verbose).getD outer)
    pure (.flags ⟨start, rest⟩ change)
  else
    setVerbose ((change.state? .verbose).getD outer)
    groupBody body outer start fun place term => .plainGroup place change term

/-- Reads a group from its opening parenthesis on. -/
def parenthesized (body : Reader Term) : Reader Term := do
  let start ← peek
  goTo start.tail
  skip
  match ← peek with
  | '?' :: '=' :: rest => refuse .lookAround ⟨start, rest⟩
  | '?' :: '!' :: rest => refuse .lookAround ⟨start, rest⟩
  | '?' :: '<' :: '=' :: rest => refuse .lookAround ⟨start, rest⟩
  | '?' :: '<' :: '!' :: rest => refuse .lookAround ⟨start, rest⟩
  | '?' :: 'P' :: '<' :: rest => do
      goTo rest
      numberedGroup body start true
  | '?' :: '<' :: rest => do
      goTo rest
      numberedGroup body start true
  | '?' :: _ => flagGroup body start
  | _ => numberedGroup body start false

/-! ## Terms -/

/-- Reads a character, an escape, a mark or the dot. -/
def primitive : Reader Term := do
  let start ← peek
  let (e, place) ← escapable
  match start, e with
  | '.' :: _, _ => pure (.dot place)
  | '^' :: _, _ => pure (.mark place .start)
  | '$' :: _, _ => pure (.mark place .stop)
  | _, .letter c isByte => pure (.letter ⟨c, isByte, place⟩)
  | _, .named name => pure (.oneOf (.named place name))
  | _, .mark which => pure (.mark place which)

/-- Reads the parts of an option, at most as many as `count`.  `parts` holds
those already read, last first.  `body` reads the inside of a group and `members` a
class in brackets.  The option starts at `start`. -/
def optionParts (body : Reader Term) (members : Reader ClassTerm) (start : List Char) :
    (count : Nat) → (parts : List Term) → Reader Term
  | 0, parts => do pure (Term.ofParts ⟨start, ← peek⟩ parts)
  | count + 1, parts => do
      skip
      let rest ← peek
      match rest with
      | [] => pure (Term.ofParts ⟨start, rest⟩ parts)
      | '|' :: _ => pure (Term.ofParts ⟨start, rest⟩ parts)
      | ')' :: _ => pure (Term.ofParts ⟨start, rest⟩ parts)
      | '(' :: _ => do
          let part ← parenthesized body
          optionParts body members start count (part :: parts)
      | '[' :: _ => do
          let part ← members
          optionParts body members start count (.oneOf part :: parts)
      | '?' :: _ => do
          let parts ← repeatLast parts 0 (some 1)
          optionParts body members start count parts
      | '*' :: _ => do
          let parts ← repeatLast parts 0 none
          optionParts body members start count parts
      | '+' :: _ => do
          let parts ← repeatLast parts 1 none
          optionParts body members start count parts
      | '{' :: _ => do
          let parts ← repeatCounted parts
          optionParts body members start count parts
      | _ => do
          let part ← primitive
          optionParts body members start count (part :: parts)

/-- Reads options up to the end of a group or of the text, at most as many as
`count`.  `options` holds those already read, last first, and the first one starts
at `start`.  `option` reads one. -/
def optionList (option : Reader Term) (start : List Char) :
    (count : Nat) → (options : List Term) → Reader Term
  | 0, options => do pure (Term.ofOptions ⟨start, ← peek⟩ options)
  | count + 1, options => do
      let read ← option
      let stop ← peek
      if ← tryTake '|' then optionList option start count (read :: options)
      else pure (Term.ofOptions ⟨start, stop⟩ (read :: options))

/-- Reads options, where at most so many characters are left, and so at most as
many groups may nest. -/
def alternatives : (size : Nat) → Reader Term
  | 0 => do pure (.empty (.before (← peek)))
  | size + 1 => do
      let start ← peek
      let option : Reader Term := do
        optionParts (alternatives size) (bracketed (size + 1)) (← peek) (size + 1) []
      optionList option start (size + 1) []

/-- The term a text writes, with the number of its groups and their names. -/
def readTerm (text : String) : Except Refusal (Term × Nat × List (String × Nat)) := do
  let letters := text.toList
  let (term, source) ← alternatives (letters.length + 1) { rest := letters }
  if !source.rest.isEmpty then .error { fault := .strayClose, place := .next source.rest }
  else
    match term.tooDeep? maxDepth with
    | some place => .error { fault := .tooDeep maxDepth, place }
    | none => .ok (term, source.groups, source.names.map fun named => (named.name, named.number))

end Pattern

end BundleConfig
