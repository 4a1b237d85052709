import BundleConfig.Pattern.Expression
import BundleConfig.Pattern.Program
import BundleConfig.Text.Basic

/-!
# Searching with patterns

A search tries every place of the text as a start, from the left, and takes the
preferred match at the first place that has one.

At one place the program is walked depth first in the order of preference.  An
instruction that was reached at a place of the text once is not tried there
again, since it failed.  So a search takes at most one step per instruction,
place and successor, and `steps` counts as many.

*Templates.*  In the value that replaces a match, `$1` and `$name` stand for what
a group matched, with the longest possible name of letters, digits and
underscores.  Braces delimit the name, as in `$\{1\}x`.  A group that is unknown
or took no part stands for nothing, and `$$` for a dollar sign.
-/

namespace BundleConfig

namespace Pattern

/-! ## One start -/

/-- Where a walk is and what it remembers. -/
structure Thread where
  /-- The place in the program. -/
  instruction : Nat
  /-- The place in the text. -/
  position : Nat
  /-- The slots. -/
  slots : Array (Option Nat)

/-- The thread after using a character that passes a test, if one does. -/
def Thread.take (t : Thread) (text : Array Char) (next : Nat) (test : Char → Bool) : List Thread :=
  match text[t.position]? with
  | some c =>
      if test c then [{ t with instruction := next, position := t.position + 1 }] else []
  | none => []

/-- The threads that come next, in order of preference, or the slots of a
match. -/
def Thread.step (t : Thread) (code : Program) (text : Array Char) :
    List Thread ⊕ Array (Option Nat) :=
  match code[t.instruction]? with
  | none => .inl []
  | some .accept => .inr t.slots
  | some (.letter c next) => .inl (t.take text next (· == c))
  | some (.one set next) => .inl (t.take text next set.contains)
  | some (.assert condition next) =>
      let before := if t.position = 0 then none else text[t.position - 1]?
      let t' : Thread := { t with instruction := next }
      .inl (if condition.holds before text[t.position]? then [t'] else [])
  | some (.choose places) => .inl (places.map fun next => { t with instruction := next })
  | some (.remember slot next) =>
      .inl [{ t with instruction := next, slots := t.slots.setIfInBounds slot (some t.position) }]

/-- Marks with more that are not set. -/
def blankMarks : (count : Nat) → ByteArray → ByteArray
  | 0, marks => marks
  | count + 1, marks => blankMarks count (marks.push 0)

/-- Whether a mark is set or is not one. -/
def isMarked (marks : ByteArray) (n : Nat) : Bool :=
  if h : n < marks.size then marks[n] != 0 else true

/-- Walks the threads in order until one matches.  `tried` marks the pairs of an
instruction and a place that were reached. -/
def walk (code : Program) (text : Array Char) :
    (steps : Nat) → List Thread → (tried : ByteArray) → Option (Array (Option Nat)) × ByteArray
  | 0, _, tried => (none, tried)
  | _ + 1, [], tried => (none, tried)
  | steps + 1, t :: threads, tried =>
      let mark := t.instruction * (text.size + 1) + t.position
      if isMarked tried mark then walk code text steps threads tried
      else
        let tried := tried.set! mark 1
        match t.step code text with
        | .inr slots => (some slots, tried)
        | .inl next => walk code text steps (next ++ threads) tried

/-- How many threads an instruction may start. -/
def Instruction.width : Instruction → Nat
  | .choose places => places.length
  | _ => 1

/-- How many steps a search may take. -/
def steps (code : Program) (text : Array Char) : Nat :=
  (code.foldl (fun n i => n + Instruction.width i) 0 + 1) * (text.size + 1) + 1

/-! ## All starts -/

/-- Tries the starts from `position` on, as many as `count`. -/
def searchFrom (code : Program) (entry slots : Nat) (text : Array Char) (tried : ByteArray)
    (position : Nat) : (count : Nat) → Option (Array (Option Nat))
  | 0 => none
  | count + 1 =>
      let start : Thread := ⟨entry, position, Array.replicate slots none⟩
      match walk code text (steps code text) [start] tried with
      | (some slots, _) => some slots
      | (none, tried) => searchFrom code entry slots text tried (position + 1) count

namespace Expression

/-- The slots of the preferred match at the leftmost place, which say where the
match and each group start and end. -/
def search (e : Expression) (text : Array Char) : Option (Array (Option Nat)) :=
  let (entry, code) := e.pattern.compile
  let tried := blankMarks (code.size * (text.size + 1)) ByteArray.empty
  searchFrom code entry (2 * e.groups + 2) text tried 0 (text.size + 1)

/-- Whether the pattern matches somewhere in the text. -/
def matchesIn (e : Expression) (text : String) : Bool := (e.search text.toList.toArray).isSome

end Expression

/-! ## Replacing -/

/-- A match, by the text around it and what the groups matched. -/
structure Match where
  /-- The text before. -/
  before : List Char
  /-- The text matched. -/
  whole : List Char
  /-- The text after. -/
  after : List Char
  /-- What each group matched, the whole first. -/
  groups : List (Option (List Char))

/-- The part of a text between two places. -/
def slice (text : Array Char) (start stop : Nat) : List Char :=
  (text.extract start stop).toList

/-- The preferred match at the leftmost place. -/
def Expression.match? (e : Expression) (text : String) : Option Match :=
  let text := text.toList.toArray
  (e.search text).bind fun slots =>
    let group (number : Nat) : Option (Nat × Nat) :=
      match (slots[2 * number]?).join, (slots[2 * number + 1]?).join with
      | some start, some stop => some (start, stop)
      | _, _ => none
    (group 0).map fun (start, stop) =>
      { before := slice text 0 start
        whole := slice text start stop
        after := slice text stop text.size
        groups := (List.range (e.groups + 1)).map fun number =>
          (group number).map fun (start, stop) => slice text start stop }

/-- A piece of a template. -/
inductive TemplatePart
  /-- A character that stands for itself. -/
  | literal (c : Char)
  /-- A group by its number or name. -/
  | group (name : List Char)

/-- A character of the name of a group that stands without braces. -/
def isTemplateLetter (c : Char) : Bool := c.isAlphanum || c == '_'

/-- The pieces of a template, after leaving out the first `used` characters,
which belong to a piece already given. -/
def templateParts : (used : Nat) → List Char → List TemplatePart
  | _, [] => []
  | used + 1, _ :: rest => templateParts used rest
  | 0, c :: rest =>
      if c = '$' then
        match rest with
        | '$' :: _ => .literal '$' :: templateParts 1 rest
        | '{' :: inner =>
            let name := inner.takeWhile (· != '}')
            if name.length < inner.length then
              .group name :: templateParts (name.length + 2) rest
            else .literal '$' :: templateParts 0 rest
        | _ =>
            let name := rest.takeWhile isTemplateLetter
            if name.isEmpty then .literal '$' :: templateParts 0 rest
            else .group name :: templateParts name.length rest
      else .literal c :: templateParts 0 rest

/-- What the name of a group in a template stands for. -/
def Expression.groupText (e : Expression) (m : Match) (name : List Char) : List Char :=
  let named : Option Nat := (e.names.find? (·.1 == String.ofList name)).map (·.2)
  let number : Option Nat := (Text.natural? name).orElse fun _ => named
  ((number.bind (m.groups[·]?)).join).getD []

/-- A template with its groups filled in. -/
def Expression.expand (e : Expression) (m : Match) (template : String) : List Char :=
  (templateParts 0 template.toList).flatMap fun
    | .literal c => [c]
    | .group name => e.groupText m name

/-- The text with its leftmost match replaced by what `value` makes of it. -/
def Expression.replaceWith (e : Expression) (value : Match → List Char) (text : String) : String :=
  match e.match? text with
  | some m => String.ofList (m.before ++ value m ++ m.after)
  | none => text

/-- The text with its leftmost match replaced by a template. -/
def Expression.replace (e : Expression) (template text : String) : String :=
  e.replaceWith (e.expand · template) text

end Pattern

end BundleConfig
