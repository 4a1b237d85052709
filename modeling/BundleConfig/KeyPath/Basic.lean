import BundleConfig.Json.Basic

/-!
# Key paths

A *key path* addresses a node of a tree by the keys and positions that lead to
it from the root.  The empty path addresses the root itself.

`KeyPath.get?` reads the addressed node and `KeyPath.set?` replaces it.  A path
that leads through a missing key, past the end of an array or into a scalar
addresses nothing, and then both give nothing.

The text of a path joins its keys with dots and puts positions in brackets, as
in `a.b[0].c`.
-/

namespace BundleConfig

/-- One step of a key path. -/
inductive Segment
  /-- To the value of a key of a mapping. -/
  | key (name : String)
  /-- To an item of an array. -/
  | index (position : Nat)
deriving DecidableEq

/-- The steps from the root of a tree to a node. -/
abbrev KeyPath := List Segment

namespace KeyPath

/-- The path of a node below the root by one key. -/
def ofKey (name : String) : KeyPath := [.key name]

/-- The path one step further. -/
def child (p : KeyPath) (s : Segment) : KeyPath := p ++ [s]

/-- Whether the node at `p` is the node at `top` or lies below it. -/
def startsWith (p top : KeyPath) : Bool := top.isPrefixOf p

/-! ## Reading and writing -/

/-- The node a step leads to. -/
def step? (v : Json) : Segment → Option Json
  | .key name => v.get? name
  | .index position => v.item? position

/-- The node at a path. -/
def get? : KeyPath → Json → Option Json
  | [], v => some v
  | s :: rest, v => (step? v s).bind (get? rest)

/-- The list with a change made to the item at a position, which must be there. -/
def modifyItem? (change : Json → Option Json) : List Json → (position : Nat) → Option (List Json)
  | [], _ => none
  | v :: rest, 0 => (change v).map (· :: rest)
  | v :: rest, n + 1 => (modifyItem? change rest n).map (v :: ·)

/-- The tree with the node at a path replaced, if there is such a node. -/
def set? (new : Json) : KeyPath → Json → Option Json
  | [], _ => some new
  | .key name :: rest, .object entries =>
      (Table.modify? entries name (set? new rest)).map .object
  | .index position :: rest, .array items =>
      (modifyItem? (set? new rest) items position).map .array
  | _, _ => none

/-- The tree with the node at a path replaced.  A path that addresses nothing
leaves the tree as it is. -/
def set (p : KeyPath) (new : Json) (v : Json) : Json := (p.set? new v).getD v

/-! ## Text -/

/-- The text of a step that is not the first. -/
def segmentText : Segment → List Char
  | .key name => '.' :: name.toList
  | .index position => '[' :: Nat.toDigits 10 position ++ [']']

/-- The text of a path. -/
def render : KeyPath → List Char
  | [] => ['<', 'r', 'o', 'o', 't', '>']
  | .key name :: rest => name.toList ++ rest.flatMap segmentText
  | p => p.flatMap segmentText

/-- The text of a path, as a string. -/
def toText (p : KeyPath) : String := String.ofList p.render

end KeyPath

end BundleConfig
