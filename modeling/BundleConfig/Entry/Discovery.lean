import BundleConfig.BuildType.Files
import BundleConfig.Entry.Settings
import BundleConfig.Module.Resolver
import BundleConfig.Pattern.Glob

/-!
# Discovering entries

A *finder* looks for entry modules.  *Discovery* takes every file below the
base that belongs to a build type.  *Expansion* replaces a specifier that names
a directory by the files in it.  Both leave out the directories they ignore, and
both say files as seen from the context.
-/

namespace BundleConfig

/-- What entries are looked for with. -/
structure EntryFinder where
  /-- The resolver of modules. -/
  resolver : Resolver
  /-- The build types. -/
  buildTypes : Table BuildType
  /-- The directories that discovery and expansion ignore. -/
  ignored : List Path

/-- The files of the entries and their directories, each once. -/
structure EntryLocations where
  /-- The files. -/
  files : List Path := []
  /-- The directories. -/
  directories : List Path := []

namespace EntryFinder

/-- The finder that ignores what its resolver ignores. -/
def ofResolver (r : Resolver) (types : Table BuildType) : EntryFinder := ⟨r, types, r.ignored⟩

/-- The specifier of a file as seen from a context, which is a rendering.  A file
elsewhere is named by its path. -/
def specifierOf (context p : Path) : String :=
  match p.below? context with
  | some rest => "./" ++ rest.text
  | none => p.text

/-- Whether a path is in no ignored directory. -/
def keeps (f : EntryFinder) (fs : FileSystem) (p : Path) : Bool := !fs.isIn p f.ignored

/-! ## Discovery -/

/-- The globs of texts. -/
def globsOf (sources : List String) : Except ConfigError (List Glob.Tokens) :=
  sources.mapM fun source => (Glob.ofText source).mapError .glob

/-- The pattern for directories that are chunks, if there is one. -/
def ownChunkExpression (s : EntrySettings) : Except ConfigError (Option Pattern.Expression) :=
  match s.ownChunkPattern with
  | none | some "" => pure none
  | some source => do pure (some (← (Pattern.ofText source).mapError .pattern))

/-- The chunk of a file whose directory is one of its own. -/
def ownChunk? (base : Path) (expression : Pattern.Expression) (p : Path) : Option String := do
  let directory ← p.parent
  if directory.same base then none
  else
    let name ← directory.fileName.bind RawText.text?
    if expression.matchesIn name then some name else none

/-- The chunks with a specifier added to one of them. -/
def addTo (chunks : Chunks) (name specifier : String) : Chunks :=
  chunks.insert name ((chunks.get? name).getD [] ++ [specifier])

/-- The entries that are found below the base. -/
def discover (f : EntryFinder) (fs : FileSystem) (s : EntrySettings) :
    Except ConfigError Chunks := do
  let r := f.resolver
  let found ← BuildTypeFiles.collect fs f.buildTypes r.base f.ignored r.mainFiles
  let globs ← globsOf s.ignoredGlobs
  let own ← ownChunkExpression s
  let isIgnored (p : Path) : Bool :=
    let seen := (p.below? r.base).getD p
    seen.spelling.text?.any fun text => globs.any (Glob.accepts · text)
  let chunkOf (p : Path) : String :=
    (own.bind (ownChunk? r.base · p)).getD Chunks.defaultName
  let files := (found.flatMap (·.files)).filter (!isIgnored ·)
  pure (files.foldl (fun chunks p => addTo chunks (chunkOf p) (specifierOf r.context p)) [])

/-! ## Expansion -/

/-- The directory a specifier names, if it is not ignored. -/
def namedDirectory? (f : EntryFinder) (fs : FileSystem) (specifier : String) : Option Path :=
  let request := f.resolver.rewrite specifier
  if request.isEmpty then none
  else
    let p : Path := ⟨request⟩
    let directory :=
      if p.isAbsolute then p.clean
      else if Specifier.isRelative request then fs.resolve f.resolver.context p
      else fs.resolve f.resolver.base p
    if fs.isDirectory directory && f.keeps fs directory then some directory else none

/-- The specifiers of the files in a directory. -/
def specifiersIn (f : EntryFinder) (fs : FileSystem) (directory : Path) : List String :=
  (fs.walk (f.keeps fs) directory).map (specifierOf f.resolver.context)

/-- The specifier, or those of the files in the directory it names. -/
def expand (f : EntryFinder) (fs : FileSystem) (specifier : String) : List String :=
  match f.namedDirectory? fs specifier with
  | some directory => f.specifiersIn fs directory
  | none => [specifier]

/-- The chunks with every specifier of a directory expanded. -/
def expandAll (f : EntryFinder) (fs : FileSystem) (chunks : Chunks) : Chunks :=
  chunks.mapValues fun specifiers => specifiers.flatMap (f.expand fs)

/-! ## Locations -/

/-- The paths with one more at their end, unless it is among them. -/
def addPath (paths : List Path) (p : Path) : List Path :=
  if paths.any p.same then paths else paths ++ [p]

/-- The locations with the file of one more module. -/
def addLocation (locations : EntryLocations) (p : Path) : EntryLocations :=
  { files := addPath locations.files p
    directories := match p.parent with
      | some directory => addPath locations.directories directory
      | none => locations.directories }

/-- The locations of the modules that have a file. -/
def locationsOf (f : EntryFinder) (fs : FileSystem) (chunks : Chunks) : EntryLocations :=
  (chunks.values.flatten.filterMap (f.resolver.resolve fs)).foldl addLocation {}

end EntryFinder

namespace EntryLocations

/-- The locations as a tree. -/
def toJson (l : EntryLocations) : Except ConfigError Json := do
  let files ← Path.listToJson l.files
  let directories ← Path.listToJson l.directories
  pure (.object [("filePaths", files), ("directoryPaths", directories)])

end EntryLocations

end BundleConfig
