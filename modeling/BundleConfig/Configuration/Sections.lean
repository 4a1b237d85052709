import BundleConfig.Entry.Settings
import BundleConfig.KeyPath.Reader
import BundleConfig.Module.Resolver

/-!
# Sections of a composed tree

A section is the node of a composed tree at a fixed path.  It has to stand for a
record, a list or a mapping.  A section that is missing or `null` has its
default.  The resolver of a project is made from four sections.
-/

namespace BundleConfig

namespace Sections

variable {α : Type}

/-- The node at the path of a text. -/
def node? (tree : Json) (path : String) : Option Json := (KeyPath.ofText path).get? tree

/-- The text at a path. -/
def text? (tree : Json) (path : String) : Option String := (node? tree path).bind Json.text?

/-- The flag at a path, or a default. -/
def flag (tree : Json) (path : String) (default : Bool) : Bool :=
  ((node? tree path).bind Json.flag?).getD default

/-- The section at a path. -/
def read (decode : Json → Except Mismatch α) (default : α) (tree : Json) (path : String) :
    Except ConfigError α :=
  match node? tree path with
  | none | some .null => pure default
  | some v => (decode v).mapError fun fault => .misfit path (.malformed fault)

/-- The entries of the mapping at a path. -/
def entries (tree : Json) (path : String) : Except ConfigError (Table Json) :=
  match (node? tree path).bind Json.entries? with
  | some entries => pure entries
  | none => throw (.misfit path .expectedMapping)

/-- The tree with a change made to the entries of the mapping at a path. -/
def update (tree : Json) (path : String) (change : Table Json → Table Json) :
    Except ConfigError Json := do
  let entries ← entries tree path
  pure ((KeyPath.ofText path).set (.object (change entries)) tree)

/-! ## Modules and packages -/

/-- The section `module`. -/
structure ModuleSection where
  /-- How requests are rewritten. -/
  rewriting : Rewriting := {}
  /-- The names of module directories. -/
  directories : List String := []

/-- The section `package`. -/
structure PackageSection where
  /-- The manifest properties that hold aliases. -/
  aliasProperties : List String := []
  /-- The names of main files. -/
  mainFiles : List String := []
  /-- The manifest properties that name an entry file. -/
  mainProperties : List String := []

/-- The replacements of modules a tree stands for. -/
def replacements : Json → Except Mismatch RewriteRules :=
  Decode.record "ReplacementSettings" []
    [Decode.field "normal" RewriteRules.decode fun table _ => table]

/-- The module settings a tree stands for. -/
def ModuleSection.decode : Json → Except Mismatch ModuleSection :=
  Decode.record "ModuleSettings" {}
    [ Decode.field "aliases" (Decode.table Decode.text) fun table s =>
        { s with rewriting := { s.rewriting with aliases := table } },
      Decode.field "directoryNames" Decode.texts fun texts s => { s with directories := texts },
      Decode.field "replacements" replacements fun table s =>
        { s with rewriting := { s.rewriting with replacements := table } } ]

/-- The main files and main properties a tree stands for, put into the settings
of packages. -/
def mainDecode : Json → Except Mismatch PackageSection :=
  Decode.record "PackageMainSettings" {}
    [ Decode.field "fileNames" Decode.texts fun texts s => { s with mainFiles := texts },
      Decode.field "propertyNames" Decode.texts fun texts s => { s with mainProperties := texts } ]

/-- The package settings a tree stands for. -/
def PackageSection.decode : Json → Except Mismatch PackageSection :=
  Decode.record "PackageSettings" {}
    [ Decode.field "aliasPropertyNames" Decode.texts fun texts s =>
        { s with aliasProperties := texts },
      Decode.field "main" mainDecode fun main s =>
        { s with mainFiles := main.mainFiles, mainProperties := main.mainProperties } ]

/-! ## The resolver of a project -/

/-- The resolver of the modules of a project. -/
def resolver (fs : FileSystem) (tree : Json) (context : Path) : Except ConfigError Resolver := do
  let modules ← read ModuleSection.decode {} tree "module"
  let packages ← read PackageSection.decode {} tree "package"
  let endings ← read Endings.decode {} tree "extensions"
  let ignored ← read Decode.texts [] tree "path.ignore"
  let r := { Resolver.ofContext fs context with
    rewriting := modules.rewriting
    endings := endings
    moduleDirectories := modules.directories
    mainFiles := packages.mainFiles
    mainProperties := packages.mainProperties
    aliasProperties := packages.aliasProperties }
  let r := r.withIgnored fs ignored
  match text? tree "path.source.asset.base" with
  | some base => pure (r.withBase fs base)
  | none => pure r

/-- The directories that discovery ignores.  None of them holds the context. -/
def discoveryIgnored (fs : FileSystem) (tree : Json) (context : Path) :
    Except ConfigError (List Path) := do
  let ignored ← read Decode.texts [] tree "path.ignore"
  let ofModules ← read Decode.texts [] tree "module.directoryNames"
  let ofLoaders ← read Decode.texts [] tree "loader.directoryNames"
  let places := (ignored ++ ofModules ++ ofLoaders).map fun (name : String) =>
    (fs.resolve context ⟨name⟩).text
  pure (((Path.normalizeAll places).map fun (place : String) => (⟨place⟩ : Path)).filter fun p =>
    !context.startsWith p)

end Sections

end BundleConfig
