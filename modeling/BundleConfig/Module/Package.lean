import BundleConfig.FileSystem.Basic
import BundleConfig.Json.Reader
import BundleConfig.Specifier.Alias

/-!
# Packages

A directory is a package when it holds a manifest, the file `package.json`.
Some properties of a manifest name the entry file of the package, and some hold
aliases for it.  A manifest that cannot be read counts as missing.
-/

namespace BundleConfig

namespace Package

/-- The file name of a manifest. -/
def manifestName : String := "package.json"

/-- How many directories a search through the parents looks at. -/
def maxAscent : Nat := 64

/-- What a manifest says of the entry of its package. -/
structure Entry where
  /-- The entry file. -/
  file : Option String
  /-- The aliases for the entry file. -/
  aliases : Aliases

/-- The tree in a file, if there is one. -/
def manifestAt (fs : FileSystem) (p : Path) : Option Json := do
  let text ← (fs.readText p).toOption
  (Json.read text).toOption

/-- The text of a property, if it is one and not empty. -/
def nonEmptyText? (manifest : Json) (property : String) : Option String :=
  ((manifest.get? property).bind Json.text?).filter fun text => !text.isEmpty

/-- The pairs of a mapping whose values are texts. -/
def aliasesOf (entries : Table Json) : Aliases :=
  entries.filterMap fun (key, v) => v.text?.map fun text => (key, text)

/-- The entry after the alias properties.  The first one that has something to
say is the last one looked at: a mapping, or a text while there is no file. -/
def Entry.withAliasProperties (manifest : Json) : List String → Entry → Entry
  | [], e => e
  | property :: rest, e =>
      match manifest.get? property with
      | some (.object entries) => { e with aliases := aliasesOf entries }
      | some (.string text) =>
          if e.file.isNone && !text.isEmpty then { e with file := some text }
          else withAliasProperties manifest rest e
      | _ => withAliasProperties manifest rest e

/-- The entry of a manifest. -/
def Entry.ofManifest (manifest : Json) (mainProperties aliasProperties : List String) : Entry :=
  Entry.withAliasProperties manifest aliasProperties
    ⟨mainProperties.findSome? (nonEmptyText? manifest), []⟩

/-- The entry of the package in a directory. -/
def entry? (fs : FileSystem) (directory : Path) (mainProperties aliasProperties : List String) :
    Option Entry :=
  let manifest := directory.entry manifestName
  if fs.isFile manifest then
    (manifestAt fs manifest).map (Entry.ofManifest · mainProperties aliasProperties)
  else none

/-- The nearest file of a name in a directory or its parents, of which `count`
are looked at. -/
def findAbove (fs : FileSystem) (start : Path) (name : String) (count : Nat) : Option Path :=
  (((fs.absolute start).ancestors count).map (·.entry name)).find? fs.isFile

end Package

end BundleConfig
