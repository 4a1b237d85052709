import BundleConfig.Error

/-!
# Merging layers

A layer is merged onto a target tree.  A scalar or an array replaces what stands
in its place.  A mapping is merged entry by entry: its keys keep their place in
the target, and new keys follow at the end.

*Directives.*  Four keys of a mapping in a layer change the target node before
the other entries are merged, in this order.  `__replace__` puts a value in its
place.  `__remove__` takes items from an array or keys from a mapping.
`__prepend__` and `__append__` add items to an array.  They never appear in a
result: whatever a layer brings in is merged onto an empty target first.

*Conflicts.*  An array does not replace a mapping that has entries, and a mapping
is not merged into an array that has items.

A layer may nest `maxLevels` levels below its root.

`mergeOnto` and the functions beside it are structural in the layer.  Their
`path` leads to the node that is merged and serves the messages only.
-/

namespace BundleConfig

namespace Merge

/-- The key of a value that replaces the target. -/
def replaceKey : String := "__replace__"

/-- The key of items or keys that are taken from the target. -/
def removeKey : String := "__remove__"

/-- The key of items put before those of the target. -/
def prependKey : String := "__prepend__"

/-- The key of items put after those of the target. -/
def appendKey : String := "__append__"

/-- Whether a key is a directive. -/
def isDirective (key : String) : Bool :=
  key == replaceKey || key == removeKey || key == prependKey || key == appendKey

/-- How many levels a layer may nest below its root. -/
def maxLevels : Nat := 256

/-- The values an operand lists.  One that is no array lists itself. -/
def operandItems : Json → List Json
  | .array items => items
  | v => [v]

/-- The target after a removal. -/
def removeFrom (removals : List Json) : Json → Json
  | .array items => .array (items.filter fun item => !removals.any (Json.equal item))
  | .object entries =>
      .object (removals.foldl
        (fun entries removal =>
          match removal with
          | .string key => Table.erase entries key
          | _ => entries)
        entries)
  | v => v

/-- The target after the additions of a directive at its start or its end, if the
directive is there.  A missing target counts as an empty array. -/
def addTo (directive : String) (atStart : Bool) (path : KeyPath) (target : Json) :
    (additions : Option (Except ConfigError (List Json))) → Except ConfigError Json
  | none => .ok target
  | some additions =>
      match target with
      | .null => additions.map .array
      | .array items =>
          additions.map fun added => .array (if atStart then added ++ items else items ++ added)
      | _ => .error (.shape path (.noArrayTarget directive))

/-- The mapping that entries can be merged into in the place of a target. -/
def mappingTarget (path : KeyPath) : Json → Except ConfigError (Table Json)
  | .object entries => .ok entries
  | .array (_ :: _) => .error (.shape path .mappingOntoArray)
  | _ => .ok []

/-- The target after the directives of a mapping, in their order.  Beside the
removals these are given by what they bring in. -/
def applyDirectives (path : KeyPath) (target : Json)
    (replaced : Except ConfigError (Option Json)) (removals : Option Json)
    (prepended appended : Option (Except ConfigError (List Json))) : Except ConfigError Json := do
  let target := (← replaced).getD target
  let target :=
    match removals with
    | some operand => removeFrom (operandItems operand) target
    | none => target
  let target ← addTo prependKey true path target prepended
  addTo appendKey false path target appended

mutual

/-- The target with a layer merged onto it. -/
def mergeOnto (depth : Nat) (path : KeyPath) (target : Json) :
    (layer : Json) → Except ConfigError Json
  | .object entries =>
      if depth > maxLevels then .error (.cyclic (.nesting maxLevels path))
      else do
        let target ← applyDirectives path target (replacement (depth + 1) path entries)
          (Table.get? entries removeKey) (additions prependKey (depth + 1) path entries)
          (additions appendKey (depth + 1) path entries)
        if entries.all fun entry => isDirective entry.1 then
          pure (if entries.isEmpty && !target.isObject then Json.emptyObject else target)
        else do
          let fields ← mappingTarget path target
          let merged ← mergeEntries (depth + 1) path fields entries
          pure (.object merged)
  | .array items =>
      if depth > maxLevels then .error (.cyclic (.nesting maxLevels path))
      else
        match target with
        | .object (_ :: _) => .error (.shape path .arrayOntoMapping)
        | _ => (cleanItems (depth + 1) path 0 items).map .array
  | scalar =>
      if depth > maxLevels then .error (.cyclic (.nesting maxLevels path))
      else .ok scalar
termination_by structural layer => layer

/-- The items of an array, each merged onto nothing. -/
def cleanItems (depth : Nat) (path : KeyPath) (position : Nat) :
    (items : List Json) → Except ConfigError (List Json)
  | [] => .ok []
  | item :: rest => do
      let first ← mergeOnto depth (path.child (.index position)) .null item
      let others ← cleanItems depth path (position + 1) rest
      pure (first :: others)
termination_by structural items => items

/-- The items of an operand, each merged onto nothing, at the path of the
directive's mapping. -/
def cleanAdditions (depth : Nat) (path : KeyPath) :
    (items : List Json) → Except ConfigError (List Json)
  | [] => .ok []
  | item :: rest => do
      let first ← mergeOnto depth path .null item
      let others ← cleanAdditions depth path rest
      pure (first :: others)
termination_by structural items => items

/-- The value of the replacing directive among entries, merged onto nothing. -/
def replacement (depth : Nat) (path : KeyPath) :
    (entries : List (String × Json)) → Except ConfigError (Option Json)
  | [] => .ok none
  | (key, v) :: rest =>
      if key = replaceKey then (mergeOnto depth path .null v).map some
      else replacement depth path rest
termination_by structural entries => entries

/-- The items an adding directive among entries brings in, if it is there. -/
def additions (directive : String) (depth : Nat) (path : KeyPath) :
    (entries : List (String × Json)) → Option (Except ConfigError (List Json))
  | [] => none
  | (key, v) :: rest =>
      if key = directive then
        match v with
        | .array items => some (cleanAdditions depth path items)
        | single => some ((mergeOnto depth path .null single).map ([·]))
      else additions directive depth path rest
termination_by structural entries => entries

/-- The fields with the entries that are no directives merged into them. -/
def mergeEntries (depth : Nat) (path : KeyPath) (fields : Table Json) :
    (entries : List (String × Json)) → Except ConfigError (Table Json)
  | [] => .ok fields
  | (key, v) :: rest =>
      if isDirective key then mergeEntries depth path fields rest
      else do
        let old := (fields.get? key).getD .null
        let new ← mergeOnto depth (path.child (.key key)) old v
        mergeEntries depth path (fields.insert key new) rest
termination_by structural entries => entries

end

/-- The target with a layer merged onto it, from the root. -/
def mergeLayer (target layer : Json) : Except ConfigError Json := mergeOnto 0 [] target layer

/-- The target with layers merged onto it, one after the other. -/
def mergeLayers (target : Json) (layers : List Json) : Except ConfigError Json :=
  layers.foldlM mergeLayer target

end Merge

end BundleConfig
