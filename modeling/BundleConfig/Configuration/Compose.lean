import BundleConfig.Configuration.Options
import BundleConfig.Layer.DynamicFile
import BundleConfig.Layer.Override
import BundleConfig.Project.Context

/-!
# Composing layers

The layers of a configuration are merged in this order: the packaged layers,
the blocks of the task in them, the manifest, the runtime layer, the override.

The blocks of the task in a manifest are merged onto the manifest's own settings
before these become a layer.  Those that are not asked for are dropped.
-/

namespace BundleConfig

/-- A composed tree, with the layers it is composed of. -/
structure Composition where
  /-- The tree. -/
  tree : Json := Json.emptyObject
  /-- The kinds and names of the layers, in order. -/
  layers : List (LayerOrigin × String) := []

namespace Composition

/-- The composition with one more layer merged onto it. -/
def add (c : Composition) (l : Layer) : Except ConfigError Composition := do
  pure ⟨← l.mergedOnto c.tree, c.layers ++ [(l.kind, l.name)]⟩

/-- The composition with more layers merged onto it. -/
def addAll (c : Composition) : List Layer → Except ConfigError Composition
  | [] => pure c
  | l :: rest => do (← c.add l).addAll rest

/-- The composition without task blocks. -/
def dropTaskBlocks (c : Composition) : Composition :=
  { c with tree := Layer.dropTaskBlocks c.tree }

/-- The packaged layers. -/
def packaged (manifestSettings : Json) (debug : Bool) : Except ConfigError Composition := do
  let c ← add {} ⟨.base, "default", Packaged.base⟩
  let c ← if debug then c.add ⟨.debug, "debug", Packaged.debug⟩ else pure c
  if Layer.libraryApplies manifestSettings c.tree then
    c.add (← Layer.library Packaged.library c.tree)
  else pure c

/-- The blocks of the task in a manifest, as layers for the manifest's
settings. -/
def manifestTaskLayers (block : Json) (task : Option String) (debug : Bool) : List Layer :=
  (Layer.ofTask block task debug).map fun l => { l with name := "manifest:" ++ l.name }

/-- The settings of a manifest with the blocks of the task merged onto them, after
the layers before. -/
def withManifestTasks (block : Json) (task : Option String) (debug : Bool)
    (layers : List (LayerOrigin × String)) : Except ConfigError Composition := do
  let c ← addAll ⟨block, layers⟩ (manifestTaskLayers block task debug)
  pure c.dropTaskBlocks

/-- What a composition is about, apart from the settings themselves. -/
structure Request where
  /-- The requested task. -/
  task : Option String
  /-- Whether the debug mode is on. -/
  debug : Bool
  /-- The text of an override. -/
  override : Option String

/-- The composition of all layers. -/
def ofLayers (fs : FileSystem) (context : Path) (manifestSettings : Json) (runtime : Layer)
    (r : Request) : Except ConfigError Composition := do
  let c ← packaged manifestSettings r.debug
  let c ← c.addAll (Layer.ofTask c.tree r.task r.debug)
  let manifest ← withManifestTasks manifestSettings r.task r.debug c.layers
  let c : Composition := ⟨Layer.dropTaskBlocks c.tree, manifest.layers⟩
  let c ← c.add ⟨.manifest, "manifest", manifest.tree⟩
  let c ← c.add runtime
  match r.override with
  | none => pure c
  | some text =>
      let settings ← Override.parse text
      let settings ← Override.withReferents fs c.tree context settings
      c.add ⟨.override, "cli-json", settings⟩

end Composition

end BundleConfig
