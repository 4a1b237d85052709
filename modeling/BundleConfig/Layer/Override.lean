import BundleConfig.Json.Reader
import BundleConfig.Layer.Basic

/-!
# Overrides

An override is a mapping in the command line.  It may refer to other settings by
name.  A name is a key of the composed tree, or else a file as seen from the
context.  The settings are merged onto the override in the order of their names,
so what is referred to wins.
-/

namespace BundleConfig

namespace Override

/-- The key of the names an override refers to. -/
def referentKey : String := "__reference__"

/-- The override a text spells. -/
def parse (text : String) : Except ConfigError Json :=
  match Json.read text with
  | .error fault => .error (.source (.invalidOverride fault))
  | .ok (.object entries) => .ok (.object entries)
  | .ok v => .error (.source (.overrideNotObject v))

/-- The error of a name that refers to nothing. -/
def unknown (name : String) : ConfigError := .source (.unknownReference name)

/-- One name in a list of names. -/
def nameOf : Json → Except ConfigError String
  | .string name => .ok name
  | v => .error (unknown v.toCompact)

/-- The names an override refers to, as they are written. -/
def namesOf : Json → Except ConfigError (List String)
  | .string name => .ok [name]
  | .array items => items.mapM nameOf
  | v => .error (unknown v.toCompact)

/-- The settings in a file. -/
def readFile (fs : FileSystem) (context : Path) (name : String) : Except ConfigError Json := do
  let p := fs.resolve context ⟨name⟩
  if !fs.isFile p then throw (unknown name)
  let text ← (fs.readText p).mapError .file
  (Json.read text).mapError fun fault => .source (.malformedReference p fault)

/-- The settings of a name. -/
def referent (fs : FileSystem) (tree : Json) (context : Path) (name : String) :
    Except ConfigError Json :=
  match tree.get? name with
  | some v => pure v
  | none => readFile fs context name

/-- The override with the settings of names merged onto it. -/
def mergeReferents (fs : FileSystem) (tree : Json) (context : Path) :
    List String → Json → Except ConfigError Json
  | [], settings => pure settings
  | name :: rest, settings => do
      let referred ← referent fs tree context name
      mergeReferents fs tree context rest (← Merge.mergeLayer settings referred)

/-- The override with what it refers to. -/
def withReferents (fs : FileSystem) (tree : Json) (context : Path) (settings : Json) :
    Except ConfigError Json :=
  match settings.entries?.bind (Table.get? · referentKey), settings with
  | some names, .object entries => do
      mergeReferents fs tree context (← namesOf names) (.object (Table.erase entries referentKey))
  | _, _ => pure settings

end Override

end BundleConfig
