import BundleConfig.Module.Package
import BundleConfig.Specifier.Rebase

/-!
# Resolving modules

A resolver finds the file of a module specifier.  It rewrites the bare request
and looks at the *places* the request may denote.  An absolute request and a
relative one denote one place.  Every other request is looked for in the module
directories of the context and of the directories above it, and last in the
base.

At each place it probes *stems*: the place itself, the entry of the package
there, and the main files in it.  A stem is tried with each module suffix and
file extension.  The first file wins that lies in no ignored directory.
-/

namespace BundleConfig

/-- How the names of module files may end. -/
structure Endings where
  /-- The extensions tried for modules of the project. -/
  internalExtensions : List String := []
  /-- The extensions of modules that may stay outside. -/
  externalExtensions : List String := []
  /-- The suffixes tried before an extension. -/
  suffixes : List String := []

/-- What a resolver goes by. -/
structure Resolver where
  /-- How requests are rewritten. -/
  rewriting : Rewriting
  /-- How the names of module files may end. -/
  endings : Endings
  /-- The directory relative requests are seen from. -/
  context : Path
  /-- The last directory other requests are looked for in. -/
  base : Path
  /-- The directories whose files are never found. -/
  ignored : List Path
  /-- The names of module directories. -/
  moduleDirectories : List String
  /-- The names of main files. -/
  mainFiles : List String
  /-- The manifest properties that name an entry file. -/
  mainProperties : List String
  /-- The manifest properties that hold aliases. -/
  aliasProperties : List String

/-! ## Sections -/

/-- The endings without suffixes that a tree of file extensions stands for. -/
def Endings.decodeFiles : Json → Except Mismatch Endings :=
  Decode.record "FileExtensions" {}
    [ Decode.field "internal" Decode.texts fun texts e => { e with internalExtensions := texts },
      Decode.field "external" Decode.texts fun texts e => { e with externalExtensions := texts } ]

/-- The endings a tree stands for. -/
def Endings.decode : Json → Except Mismatch Endings :=
  Decode.record "Extensions" {}
    [ Decode.field "file" Endings.decodeFiles fun file e => { file with suffixes := e.suffixes },
      Decode.field "module" Decode.texts fun texts e => { e with suffixes := texts } ]

namespace Resolver

/-- The resolver of a context with the usual names. -/
def ofContext (fs : FileSystem) (context : Path) : Resolver :=
  let context := fs.absolute context
  { rewriting := {}
    endings := ⟨[".js", ".json"], [".js"], []⟩
    context := context
    base := context
    ignored := [context.entry ".git"]
    moduleDirectories := ["node_modules"]
    mainFiles := ["index"]
    mainProperties := ["main"]
    aliasProperties := [] }

/-- The resolver with another base, seen from the context. -/
def withBase (r : Resolver) (fs : FileSystem) (base : String) : Resolver :=
  { r with base := fs.resolve r.context ⟨base⟩ }

/-- The resolver with other ignored directories, seen from the context. -/
def withIgnored (r : Resolver) (fs : FileSystem) (directories : List String) : Resolver :=
  { r with ignored := directories.map fun (directory : String) => fs.resolve r.context ⟨directory⟩ }

/-- The resolver that sees all requests from one directory. -/
def seenFrom (r : Resolver) (directory : Path) : Resolver :=
  { r with context := directory, base := directory }

/-- The rewritten bare request of a specifier. -/
def rewrite (r : Resolver) (specifier : String) : String := r.rewriting.applyBare specifier

/-! ## Places and stems -/

/-- The places a request may denote, best first. -/
def places (r : Resolver) (fs : FileSystem) (request : String) : List Path :=
  let p : Path := ⟨request⟩
  if p.isAbsolute then [p.clean]
  else if Specifier.isRelative request then [fs.resolve r.context p]
  else
    let above := r.context.ancestors Package.maxAscent
    let inModules := above.flatMap fun directory =>
      r.moduleDirectories.map fun name => (directory.entry name).join p
    inModules ++ [r.base.join p]

/-- The entry of the package at a place. -/
def packageStem? (r : Resolver) (fs : FileSystem) (place : Path) : Option Path := do
  let entry ← if fs.isDirectory place then
      Package.entry? fs place r.mainProperties r.aliasProperties
    else none
  let file ← entry.file
  pure (fs.resolve place ⟨r.rewriting.replacements.apply (entry.aliases.apply file)⟩)

/-- The main file of a name at a place. -/
def mainStem? (r : Resolver) (place : Path) (name : String) : Option Path :=
  let name := r.rewriting.replacements.apply name
  if name.isEmpty then none else some (place.entry name)

/-- The stems at a place, best first. -/
def stems (r : Resolver) (fs : FileSystem) (place : Path) : List Path :=
  [place] ++ (r.packageStem? fs place).toList ++ r.mainFiles.filterMap (r.mainStem? place)

/-- The texts a stem is continued with, best first. -/
def continuations (r : Resolver) : List String :=
  (r.endings.suffixes ++ [""]).flatMap fun suffix =>
    ("" :: r.endings.internalExtensions).map fun extension => suffix ++ extension

/-- Whether a path is a file that may be found. -/
def accepts (r : Resolver) (fs : FileSystem) (p : Path) : Bool :=
  !fs.isIn p r.ignored && fs.isFile p

/-- The first file of a stem. -/
def fileOfStem (r : Resolver) (fs : FileSystem) (stem : Path) : Option Path :=
  (r.continuations.map fun (ending : String) => stem.append ending).find? (r.accepts fs)

/-- The first file at a place. -/
def fileAt (r : Resolver) (fs : FileSystem) (place : Path) : Option Path :=
  (r.stems fs place).findSome? (r.fileOfStem fs)

/-- The file of a specifier. -/
def resolve (r : Resolver) (fs : FileSystem) (specifier : String) : Option Path :=
  let request := r.rewrite specifier
  if request.isEmpty then none else (r.places fs request).findSome? (r.fileAt fs)

/-- Whether two outcomes of `resolve` are the same file, or both nothing. -/
def sameFile : Option Path → Option Path → Bool
  | some p, some q => p.same q
  | none, none => true
  | _, _ => false

end Resolver

end BundleConfig
