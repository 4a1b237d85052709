import BundleConfig.Error

/-!
# Given entries

The entries of a bundle are given in one of several forms: one specifier, a
list of them, or lists by the names of *chunks*.  They may also be left to
discovery, or be computed by a caller, who is told from others by a number.

*Normal form.*  The entries in normal form are chunks, and none of them is
empty.  The one exception is the chunk `index`, which stands alone and empty
when there are no entries.  Specifiers without a chunk are in `index`.
-/

namespace BundleConfig

/-- Specifiers by chunk. -/
abbrev Chunks := Table (List String)

namespace Chunks

/-- The chunk of entries without one. -/
def defaultName : String := "index"

/-- The chunks without the empty ones, or the empty chunk `index`. -/
def dropEmpty (chunks : Chunks) : Chunks :=
  match List.filter (fun (_, specifiers) => !List.isEmpty specifiers) chunks with
  | [] => [(defaultName, [])]
  | full => full

/-- Whether two tables have the same chunks, in whatever order. -/
def same (a b : Chunks) : Bool :=
  a.length == b.length && List.all a fun (name, specifiers) => b.get? name == some specifiers

/-- The chunks as a tree. -/
def toJson (chunks : Chunks) : Json := .object (Table.mapValues Json.ofTexts chunks)

/-- The chunks a tree stands for. -/
def decode : Json → Except Mismatch Chunks := Decode.table Decode.texts

end Chunks

/-- Entries as they are given. -/
inductive GivenEntries
  /-- The files that are found. -/
  | discovered
  /-- One specifier. -/
  | single (specifier : String)
  /-- Several specifiers. -/
  | list (specifiers : List String)
  /-- Specifiers by chunk. -/
  | chunks (table : Chunks)
  /-- What the caller of a number computes. -/
  | computed (caller : Nat) (value : GivenEntries)

namespace GivenEntries

/-- The text that stands for discovery. -/
def discoveryMark : String := "__auto__"

/-- The path of the given entries in a configuration. -/
def configurationPath : KeyPath := [.key "injection", .key "entry"]

/-- The specifiers in items at a path, the first of them at `position`. -/
def specifiers (path : KeyPath) : (position : Nat) → List Json → Except ConfigError (List String)
  | _, [] => pure []
  | position, .string specifier :: rest => do
      pure (specifier :: (← specifiers path (position + 1) rest))
  | position, v :: _ => throw (.shape (path.child (.index position)) (.notSpecifiers v))

/-- The specifiers of one chunk. -/
def chunkSpecifiers (path : KeyPath) : Json → Except ConfigError (List String)
  | .string specifier => pure [specifier]
  | .array items => specifiers path 0 items
  | .null => pure []
  | v => throw (.shape path (.notSpecifiers v))

/-- The entries a tree gives. -/
def ofJson : Json → Except ConfigError GivenEntries
  | .null => pure (list [])
  | .string text => pure (if text = discoveryMark then discovered else single text)
  | .array items => (specifiers configurationPath 0 items).map list
  | .object entries =>
      (entries.mapM fun (name, v) =>
        (chunkSpecifiers (configurationPath.child (.key name)) v).map fun texts =>
          (name, texts)).map chunks
  | v => throw (.shape configurationPath (.notSpecifiers v))

/-- The tree that gives the entries. -/
def toJson : GivenEntries → Json
  | discovered => .string discoveryMark
  | single specifier => .string specifier
  | list specifiers => .ofTexts specifiers
  | chunks table => table.toJson
  | computed _ value => value.toJson

/-- Whether the entries are left to discovery. -/
def isDiscovered : GivenEntries → Bool
  | discovered => true
  | computed _ value => value.isDiscovered
  | _ => false

/-- The entries in normal form.  Those left to discovery are not known yet. -/
def normalize : GivenEntries → Chunks
  | discovered => []
  | single specifier => [(Chunks.defaultName, [specifier])]
  | list specifiers => [(Chunks.defaultName, specifiers)]
  | chunks table => table.dropEmpty
  | computed _ value => value.normalize

/-- Whether two are given alike.  Computed ones are alike when the same caller
computes them. -/
def same : GivenEntries → GivenEntries → Bool
  | discovered, discovered => true
  | single a, single b => a == b
  | list a, list b => a == b
  | chunks a, chunks b => a.same b
  | computed i _, computed j _ => i == j
  | _, _ => false

end GivenEntries

namespace Chunks

/-- Every chunk that is left has specifiers, unless it is the empty `index`. -/
theorem dropEmpty_full (chunks : Chunks) {name : String} {specifiers : List String}
    (h : (name, specifiers) ∈ dropEmpty chunks) :
    specifiers ≠ [] ∨ dropEmpty chunks = [(defaultName, [])] := by
  unfold dropEmpty at h ⊢
  split at h
  · exact Or.inr rfl
  · rename_i full _
    left
    have := (List.mem_filter.1 h).2
    simpa using this

/-- There is a chunk. -/
theorem dropEmpty_ne_nil (chunks : Chunks) : dropEmpty chunks ≠ [] := by
  unfold dropEmpty
  split
  · simp
  · assumption

end Chunks

end BundleConfig
