import BundleConfig.Merge.Basic
import BundleConfig.Pattern.Search

/-!
# Build types

A build type describes a kind of asset.  It says which source files are of the
kind, by their extension and by a pattern for their paths, and which extension
the output has.

*Consolidation.*  Build types are written as a mapping from names to
descriptions.  The description of the name `default` is no build type.  Every
other one is merged onto it, after its name was filled in as its extension,
where it has none, and as its type.
-/

namespace BundleConfig

/-- A kind of asset. -/
structure BuildType where
  /-- The name of the kind. -/
  name : String := ""
  /-- The extension of its source files, without the dot. -/
  extension : String := ""
  /-- The extension of its output files. -/
  outputExtension : String := ""
  /-- The text of the pattern for the paths of its source files.  The empty text
  is no pattern. -/
  pathPattern : String := ""

namespace BuildType

/-! ## Reading -/

/-- The build type a tree stands for. -/
def decode : Json → Except Mismatch BuildType :=
  Decode.record "BuildTypeDescriptor" {}
    [ Decode.field "type" Decode.text fun text t => { t with name := text },
      Decode.field "extension" Decode.text fun text t => { t with extension := text },
      Decode.field "outputExtension" Decode.text fun text t => { t with outputExtension := text },
      Decode.field "filePathPattern" Decode.text fun text t => { t with pathPattern := text } ]

/-- The build types a consolidated mapping stands for. -/
def decodeAll (v : Json) : Except ConfigError (Table BuildType) :=
  (Decode.table decode v).mapError fun fault => .source (.invalidBuildTypes fault)

/-- The entries that describe a build type. -/
def toEntries (t : BuildType) : Table Json :=
  [("type", .string t.name), ("extension", .string t.extension),
    ("outputExtension", .string t.outputExtension), ("filePathPattern", .string t.pathPattern)]

/-- The description of a build type. -/
def toJson (t : BuildType) : Json := .object t.toEntries

/-- The descriptions by name. -/
def tableToJson (types : Table BuildType) : Json := .object (types.mapValues toJson)

/-! ## Consolidation -/

/-- The name of the description all others are merged onto. -/
def defaultName : String := "default"

/-- The description of a name, made complete. -/
def completeOne (defaults : Json) (name : String) (description : Json) :
    Except ConfigError Json := do
  let named (key : String) : Json := .object [(key, .string name)]
  let specific ← Merge.mergeLayers (named "extension") [description, named "type"]
  Merge.mergeLayers defaults [specific]

/-- The descriptions, made complete. -/
def consolidate (descriptions : Table Json) : Except ConfigError (Table Json) :=
  let defaults := (descriptions.get? defaultName).getD Json.emptyObject
  (descriptions.erase defaultName).mapM fun (name, description) =>
    (completeOne defaults name description).map fun complete => (name, complete)

/-! ## Files of a build type -/

/-- The rendering of the extension of a path, empty if it has none. -/
def sourceExtension (p : Path) : String := (p.extension.map RawText.text).getD ""

/-- The pattern for paths, if there is one. -/
def pattern (t : BuildType) : Except ConfigError (Option Pattern.Expression) :=
  if t.pathPattern.isEmpty then pure none
  else do pure (some (← (Pattern.ofText t.pathPattern).mapError .pattern))

/-- Whether a path has the extension of the build type and its rendering fits the
pattern. -/
def accepts (t : BuildType) (p : Path) : Except ConfigError Bool :=
  if sourceExtension p != t.extension then pure false
  else do
    match ← t.pattern with
    | some expression => pure (expression.matchesIn p.text)
    | none => pure true

/-- The first build type whose pattern fits the rendering of a path. -/
def firstByPattern (p : Path) : Table BuildType → Except ConfigError (Option String)
  | [] => pure none
  | (name, t) :: rest => do
      match ← t.pattern with
      | some expression =>
          if expression.matchesIn p.text then pure (some name) else firstByPattern p rest
      | none => firstByPattern p rest

/-- The build type of a path: the first whose pattern fits, else the first with
its extension.  A path without extension has none. -/
def ofPath (types : Table BuildType) (p : Path) : Except ConfigError (Option String) := do
  if (sourceExtension p).isEmpty then pure none
  else
    match ← firstByPattern p types with
    | some name => pure (some name)
    | none => pure ((types.find? fun (_, t) => t.extension == sourceExtension p).map (·.1))

end BuildType

end BundleConfig
