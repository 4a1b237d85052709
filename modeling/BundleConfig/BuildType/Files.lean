import BundleConfig.BuildType.Basic
import BundleConfig.FileSystem.Walk

/-!
# Source files by build type

The files below a base are given to the build types that accept them.  In a
build type the main files come first.  The build types whose output are scripts
come first, and otherwise they are in the order of their extensions.
-/

namespace BundleConfig

/-- A build type with the files it accepts. -/
structure BuildTypeFiles where
  /-- The build type. -/
  buildType : BuildType
  /-- The files. -/
  files : List Path

namespace BuildTypeFiles

/-- The output extension of scripts. -/
def scriptExtension : String := "js"

/-- Whether the output are scripts. -/
def isScript (t : BuildTypeFiles) : Bool := t.buildType.outputExtension == scriptExtension

/-- Whether `s` comes before `t` or is as good. -/
def precedes (s t : BuildTypeFiles) : Bool :=
  if s.isScript = t.isScript then decide (s.buildType.extension ≤ t.buildType.extension)
  else s.isScript

/-- Whether a file is a main file. -/
def isMain (mainFiles : List String) (p : Path) : Bool :=
  p.fileStem.any fun stem => mainFiles.any fun name => stem == RawText.ofText name

/-- The files with the main files first. -/
def mainFirst (mainFiles : List String) (files : List Path) : List Path :=
  files.filter (isMain mainFiles) ++ files.filter fun p => !isMain mainFiles p

/-- The files a build type accepts, under the name it has in its table. -/
def ofFiles (mainFiles : List String) (files : List Path) (name : String) (t : BuildType) :
    Except ConfigError BuildTypeFiles := do
  let accepted ← files.filterM t.accepts
  let t := if t.name.isEmpty then { t with name := name } else t
  pure ⟨t, mainFirst mainFiles accepted⟩

/-- The build types with the files below `base` they accept, apart from those in
ignored directories. -/
def collect (fs : FileSystem) (types : Table BuildType) (base : Path) (ignored : List Path)
    (mainFiles : List String) : Except ConfigError (List BuildTypeFiles) := do
  let files := fs.walk (fun p => !fs.isIn p ignored) base
  let found ← types.mapM fun (name, t) => ofFiles mainFiles files name t
  pure (found.mergeSort precedes)

/-- The tree of a build type with its files. -/
def toJson (t : BuildTypeFiles) : Except ConfigError Json := do
  pure (.object (t.buildType.toEntries ++ [("filePaths", ← Path.listToJson t.files)]))

end BuildTypeFiles

end BundleConfig
