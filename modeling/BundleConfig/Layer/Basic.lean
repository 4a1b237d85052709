import BundleConfig.Expression.Value
import BundleConfig.Layer.Packaged
import BundleConfig.Merge.Basic

/-!
# Layers

A configuration is composed of layers, each merged onto those before it.  A
layer has a kind, which says where it comes from, and a name.

*Tasks.*  A tree may hold blocks of settings under the names of tasks.  The block
of the requested task is a layer of its own, and so is the block `debug` in the
debug mode.  No block stays in the tree.

*Manifests.*  A project's manifest has a block of settings.  It holds the name of
the package too.
-/

namespace BundleConfig

/-- Where a layer comes from. -/
inductive LayerOrigin
  | base
  | debug
  | library
  | task
  | manifest
  | dynamicFile
  | override
deriving DecidableEq

namespace LayerOrigin

/-- The name of a kind. -/
def toText : LayerOrigin → String
  | base => "default"
  | debug => "debug"
  | library => "library"
  | task => "task"
  | manifest => "manifest"
  | dynamicFile => "dynamic-file"
  | override => "cli-json"

end LayerOrigin

/-- A part of a configuration. -/
structure Layer where
  /-- Where it comes from. -/
  kind : LayerOrigin
  /-- Its name. -/
  name : String
  /-- Its settings. -/
  tree : Json

namespace Layer

/-- The target with the layer merged onto it. -/
def mergedOnto (l : Layer) (target : Json) : Except ConfigError Json :=
  Merge.mergeLayer target l.tree

/-! ## Libraries -/

/-- Whether the library layer applies.  The manifest decides, and the tree does
when the manifest has no opinion. -/
def libraryApplies (manifestSettings tree : Json) : Bool :=
  match manifestSettings.get? "library" with
  | some (.bool flag) => flag
  | none | some .null => ((tree.get? "library").map Expression.isTruthy).getD false
  | some _ => false

/-- The library layer, with a mapping under `library` in the tree merged onto
it. -/
def library (packaged tree : Json) : Except ConfigError Layer := do
  let settings ← match tree.get? "library" with
    | some (.object entries) => Merge.mergeLayer packaged (.object entries)
    | _ => pure packaged
  pure ⟨.library, "library", settings⟩

/-! ## Tasks -/

/-- The tasks that may have a block. -/
def taskNames : List String := ["build", "debug", "document", "serve", "test", "test:browser"]

/-- Whether the block of a task is a layer. -/
def selectsTask (task : Option String) (debug : Bool) (name : String) : Bool :=
  task == some name || debug && name == "debug"

/-- The blocks of a tree that are layers, in the order of `taskNames`. -/
def ofTask (tree : Json) (task : Option String) (debug : Bool) : List Layer :=
  (taskNames.filter (selectsTask task debug)).filterMap fun name =>
    match tree.get? name with
    | some (.object entries) => some ⟨.task, name, .object entries⟩
    | _ => none

/-- The entries without the block of a task. -/
def dropTaskBlock (entries : Table Json) (name : String) : Table Json :=
  match entries.get? name with
  | some (.object _) => entries.erase name
  | _ => entries

/-- The tree without task blocks. -/
def dropTaskBlocks : Json → Json
  | .object entries => .object (taskNames.foldl dropTaskBlock entries)
  | v => v

/-! ## Manifests -/

/-- The key of the block in a manifest. -/
def manifestKey : String := "assetComposer"

/-- The name of a project without a manifest. -/
def mockupName : String := "mockup"

/-- The settings in a manifest. -/
def manifestSettings : Option Json → Json
  | none => .object [("name", .string mockupName)]
  | some manifest =>
      let block := ((manifest.get? manifestKey).bind Json.entries?).getD []
      match manifest.get? "name" with
      | some name => .object (block.insert "name" name)
      | none => .object block

end Layer

end BundleConfig
