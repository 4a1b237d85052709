/-!
# Glob patterns

A glob pattern matches a whole text.  `?` stands for one character and `*` for
any number of them, slashes included.  `**` stands for any number of path
components and must be one itself.  Brackets hold characters and ranges, and `!`
after the opening bracket takes all others.

A star tries to match as little as possible first.  When the text ends before a
token that needs a character, every longer attempt would fail too, and the
search stops as `exhausted`.
-/

namespace BundleConfig

namespace Glob

/-- A piece of a glob pattern. -/
inductive Token
  /-- One character. -/
  | letter (c : Char)
  /-- Any one character. -/
  | any
  /-- One character in one of the ranges. -/
  | within (ranges : List (Char × Char))
  /-- One character in none of the ranges. -/
  | except (ranges : List (Char × Char))
  /-- Any characters. -/
  | sequence
  /-- Any components. -/
  | components
deriving DecidableEq

/-- A glob pattern. -/
abbrev Tokens := List Token

/-! ## Reading -/

/-- The ranges between brackets.  A hyphen between two characters makes a
range. -/
def ranges : List Char → List (Char × Char)
  | low :: '-' :: high :: rest => (low, high) :: ranges rest
  | c :: rest => (c, c) :: ranges rest
  | [] => []

/-- The characters up to the first closing bracket after the first character,
and what follows it. -/
def closeBracket? : List Char → Option (List Char × List Char)
  | first :: rest =>
      match rest.dropWhile (· != ']') with
      | _ :: after => some (first :: rest.takeWhile (· != ']'), after)
      | [] => none
  | [] => none

/-- The token of a bracket, after it was opened, and what follows. -/
def bracket? : List Char → Option (Token × List Char)
  | '!' :: inner => (closeBracket? inner).map fun (inner, after) => (.except (ranges inner), after)
  | inner => (closeBracket? inner).map fun (inner, after) => (.within (ranges inner), after)

/-- Whether a double star follows another, with at least one token before that. -/
def endsInComponents (before : List Token) : Bool :=
  match before with
  | .components :: _ :: _ => true
  | _ => false

/-- What is wrong with a glob pattern. -/
inductive Fault
  /-- More than two stars in a row. -/
  | stars
  /-- Two stars that are not a component. -/
  | noComponent
  /-- A bracket that is not closed. -/
  | range
deriving DecidableEq

/-- A fault and the place near which it was found. -/
structure Problem where
  /-- How many characters stand before the place. -/
  position : Nat
  /-- What is wrong. -/
  fault : Fault
deriving DecidableEq

/-- The wording of a fault. -/
def Fault.message : Fault → String
  | stars => "wildcards are either regular \x60*\x60 or recursive \x60**\x60"
  | noComponent => "recursive wildcards must form a single path component"
  | range => "invalid range pattern"

/-- The wording of a problem. -/
def Problem.message (p : Problem) : String :=
  "Pattern syntax error near position " ++ toString p.position ++ ": " ++ p.fault.message

/-- Reads tokens from a position on.  `previous` is the character before, if
there is one, and `before` the tokens so far, last first.  Every step leaves
fewer characters than the first argument counts. -/
def read : (fuel : Nat) → (position : Nat) → (previous : Option Char) → (before : List Token) →
    List Char → Except Problem Tokens
  | 0, position, _, _, _ => .error ⟨position, .range⟩
  | _ + 1, _, _, before, [] => .ok before.reverse
  | fuel + 1, position, previous, before, c :: rest =>
      if c = '?' then read fuel (position + 1) (some c) (.any :: before) rest
      else if c = '[' then
        match bracket? rest with
        | some (token, after) =>
            read fuel (position + 1 + rest.length - after.length) (some ']') (token :: before)
              after
        | none => .error ⟨position, .range⟩
      else if c = '*' then
        let stars := (rest.takeWhile (· == '*')).length + 1
        let after := rest.dropWhile (· == '*')
        if stars = 1 then read fuel (position + 1) (some c) (.sequence :: before) after
        else if stars > 2 then .error ⟨position + 2, .stars⟩
        else if previous.all (· == '/') then
          let before := if endsInComponents before then before else .components :: before
          match after with
          | '/' :: after => read fuel (position + 3) (some '/') before after
          | [] => read fuel (position + 2) (some c) before []
          | _ => .error ⟨position + 2, .noComponent⟩
        else .error ⟨position - 1, .noComponent⟩
      else read fuel (position + 1) (some c) (.letter c :: before) rest

/-- The glob pattern a text stands for. -/
def ofText (text : String) : Except Problem Tokens :=
  read (text.toList.length + 1) 0 none [] text.toList

/-! ## Matching -/

/-- What an attempt comes to. -/
inductive Outcome
  /-- The whole text matches. -/
  | success
  /-- This attempt fails. -/
  | failure
  /-- The text is too short for every further attempt. -/
  | exhausted
deriving DecidableEq

/-- Whether a character lies in one of the ranges. -/
def inRanges (ranges : List (Char × Char)) (c : Char) : Bool :=
  ranges.any fun (low, high) => decide (low ≤ c) && decide (c ≤ high)

/-- Whether a token that needs one character takes it. -/
def Token.takes (t : Token) (c : Char) : Bool :=
  match t with
  | letter expected => c == expected
  | any => true
  | within ranges => inRanges ranges c
  | except ranges => !inRanges ranges c
  | sequence => true
  | components => true

/-- Tries the tokens after a star at ever later places.  After components only
the places behind a slash count.  When no place is left, the tokens are tried on
what is left, which is nothing. -/
def star (next : List Char → Outcome) (components : Bool) : List Char → Outcome
  | [] => next []
  | c :: rest =>
      if components && c != '/' then star next components rest
      else
        match next rest with
        | .failure => star next components rest
        | outcome => outcome

/-- Matches tokens against the whole text. -/
def run : Tokens → List Char → Outcome
  | [], [] => .success
  | [], _ :: _ => .failure
  | token :: tokens, cs =>
      match token with
      | .sequence =>
          match run tokens cs with
          | .failure => star (run tokens) false cs
          | outcome => outcome
      | .components =>
          match run tokens cs with
          | .failure => star (run tokens) true cs
          | outcome => outcome
      | token =>
          match cs with
          | [] => .exhausted
          | c :: rest => if token.takes c then run tokens rest else .failure

/-- Whether the whole text matches. -/
def accepts (tokens : Tokens) (text : String) : Bool := run tokens text.toList == .success

end Glob

end BundleConfig
