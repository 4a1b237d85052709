import BundleConfig.Entry.Discovery

/-!
# Resolving entries

The entries of a bundle, given or discovered, lose the excluded specifiers and
are expanded.  Then each specifier is looked up.  One that has a file is
internal.  One that has none may be external.  If it may not, there is no
bundle.

The normalized entries are the internal ones.
-/

namespace BundleConfig

/-- A module of the entries.  It is internal exactly when it has a file. -/
structure EntryModule where
  /-- The specifier. -/
  request : String
  /-- The file. -/
  file : Option Path
  /-- The name of the build type of the file. -/
  assetType : Option String

/-- The entries of a bundle. -/
structure BundleEntries where
  /-- What they were found by. -/
  settings : EntrySettings
  /-- The entries as given. -/
  given : Json
  /-- The internal entries by chunk. -/
  normalized : Chunks
  /-- The external specifiers, in the order in which they were met. -/
  external : List String
  /-- The modules by chunk. -/
  modules : Table (List EntryModule)

namespace EntryModule

/-- Whether the module is a file of the project. -/
def isInternal (m : EntryModule) : Bool := m.file.isSome

/-- The file as a tree. -/
def fileToJson (m : EntryModule) : Except ConfigError Json :=
  match m.file with
  | some p => p.toJson
  | none => pure .null

/-- The module as a tree. -/
def toJson (m : EntryModule) : Except ConfigError Json := do
  let assetType : Table Json := match m.assetType with
    | some name => [("assetType", .string name)]
    | none => []
  let file ← m.fileToJson
  pure (.object ([("request", .string m.request), ("absolutePath", file),
    ("kind", .string (if m.isInternal then "internal" else "external"))] ++ assetType))

end EntryModule

namespace EntryFinder

/-- Whether a request looks like a path. -/
def isPathLike (request : String) : Bool :=
  request.toList.head? == some '.' || request.toList.head? == some '/'

/-- Whether an exclusion is about a specifier: they are equal, or they are paths
of one place. -/
def excludes (fs : FileSystem) (context : Path) (specifier exclusion : String) : Bool :=
  exclusion == specifier ||
    let a := Specifier.bareRequest exclusion
    let b := Specifier.bareRequest specifier
    isPathLike a && isPathLike b && (fs.resolve context ⟨a⟩).same (fs.resolve context ⟨b⟩)

/-- The chunks without the excluded specifiers. -/
def dropExcluded (f : EntryFinder) (fs : FileSystem) (s : EntrySettings) (chunks : Chunks) :
    Chunks :=
  chunks.mapValues fun specifiers =>
    specifiers.filter fun specifier =>
      !s.excluded.any (excludes fs f.resolver.context specifier)

/-- The module of a specifier in a chunk. -/
def moduleOf (f : EntryFinder) (fs : FileSystem) (s : EntrySettings) (chunk specifier : String) :
    Except ConfigError EntryModule :=
  match f.resolver.resolve fs specifier with
  | some p => (BuildType.ofPath f.buildTypes p).map fun assetType => ⟨specifier, some p, assetType⟩
  | none =>
      if s.allowsExternal specifier then pure ⟨specifier, none, none⟩
      else throw (.unresolvable specifier chunk)

/-- The modules of the chunks. -/
def modulesOf (f : EntryFinder) (fs : FileSystem) (s : EntrySettings) (chunks : Chunks) :
    Except ConfigError (Table (List EntryModule)) :=
  chunks.mapM fun (name, specifiers) =>
    ((Specifier.distinct specifiers).mapM (f.moduleOf fs s name)).map fun modules =>
      (name, modules)

/-- The specifiers of the internal modules. -/
def internalRequests (modules : List EntryModule) : List String :=
  (modules.filter (·.isInternal)).map (·.request)

/-- The specifiers of the external modules. -/
def externalRequests (modules : List EntryModule) : List String :=
  (modules.filter (!·.isInternal)).map (·.request)

/-- The entries in normal form, discovered where they are left to discovery. -/
def entriesOf (f : EntryFinder) (fs : FileSystem) (s : EntrySettings) (given : GivenEntries) :
    Except ConfigError Chunks :=
  if given.isDiscovered then f.discover fs s else pure given.normalize

/-- The specifiers of each chunk that are looked up. -/
def chunkLists (f : EntryFinder) (fs : FileSystem) (s : EntrySettings) (given : GivenEntries) :
    Except ConfigError Chunks :=
  (f.entriesOf fs s given).map fun entries => f.expandAll fs (f.dropExcluded fs s entries)

/-- The entries of a bundle with modules by chunk. -/
def bundle (s : EntrySettings) (given : GivenEntries) (modules : Table (List EntryModule)) :
    BundleEntries :=
  let normalized := Chunks.dropEmpty (modules.mapValues internalRequests)
  let kept := modules.filter fun (name, _) => Table.contains normalized name
  let missing := (normalized.filter fun (name, _) => !Table.contains kept name).map
    fun (name, _) => (name, [])
  { settings := s
    given := given.toJson
    normalized := normalized
    external := Specifier.distinct (modules.values.flatMap externalRequests)
    modules := kept ++ missing }

/-- The entries of a bundle. -/
def resolveFrom (f : EntryFinder) (fs : FileSystem) (s : EntrySettings)
    (given : GivenEntries) : Except ConfigError BundleEntries := do
  let chunks ← f.chunkLists fs s given
  let modules ← f.modulesOf fs s (Chunks.dropEmpty chunks)
  pure (bundle s given modules)

/-- The entries of a bundle, given in the settings. -/
def resolve (f : EntryFinder) (fs : FileSystem) (s : EntrySettings) :
    Except ConfigError BundleEntries := do
  f.resolveFrom fs s (← GivenEntries.ofJson s.entry)

end EntryFinder

namespace BundleEntries

/-- The build types of the modules, each marked as needed. -/
def neededTypes (b : BundleEntries) : Table Bool :=
  Table.ofList ((b.modules.values.flatten.filterMap (·.assetType)).map fun name => (name, true))

/-- The entries as a tree. -/
def toJson (b : BundleEntries) : Except ConfigError Json := do
  let modules ← b.modules.mapM fun (name, modules) => do
    pure (name, Json.array (← modules.mapM EntryModule.toJson))
  pure (.object
    [ ("autoExclude", .ofTexts b.settings.excluded),
      ("chunks", b.settings.chunks),
      ("dllChunkNames", .ofTexts b.settings.prebuiltChunks),
      ("entry", .object [("given", b.given), ("normalized", b.normalized.toJson)]),
      ("external", .ofTexts b.external),
      ("modules", .object modules) ])

end BundleEntries

end BundleConfig
