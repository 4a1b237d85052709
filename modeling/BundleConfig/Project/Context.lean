import BundleConfig.Module.Package

/-!
# Projects

A configuration is composed for the directory of a project.  A directory in a
module directory is an installed dependency, and it is its own project.  For
every other directory the project is the nearest directory above it, or itself,
that has a manifest.
-/

namespace BundleConfig

/-- What a project is to others. -/
inductive ProjectRole
  /-- The project that is built. -/
  | main
  /-- A package installed for another project. -/
  | dependency
deriving DecidableEq

/-- The name of a role. -/
def ProjectRole.toText : ProjectRole → String
  | main => "main"
  | dependency => "dependency"

/-- The directory of a project. -/
structure Project where
  /-- The directory. -/
  directory : Path
  /-- What the project is to others. -/
  role : ProjectRole

namespace Project

/-- The name of the directories that packages are installed in. -/
def dependencyDirectory : String := "node_modules"

/-- The directory in it where packages stand while they are installed. -/
def stagingName : String := ".staging"

/-- How many directories are looked at for a manifest. -/
def maxAscent : Nat := 32

/-- Whether a directory is an installed package. -/
def isInstalled (directory : Path) : Bool :=
  let above := directory.parent
  let name := above.bind Path.fileName
  name == some (dependencyDirectory : RawText) ||
    name == some (stagingName : RawText) &&
      (above.bind Path.parent).bind Path.fileName == some (dependencyDirectory : RawText)

/-- The project of a directory. -/
def discover (fs : FileSystem) (start : Path) : Project :=
  let start := fs.absolute start
  if isInstalled start then ⟨start, .dependency⟩
  else
    let manifest := Package.findAbove fs start Package.manifestName maxAscent
    ⟨(manifest.bind Path.parent).getD start, .main⟩

end Project

end BundleConfig
