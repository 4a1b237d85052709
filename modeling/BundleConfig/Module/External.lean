import BundleConfig.Module.Resolver
import BundleConfig.Specifier.Selection

/-!
# External modules

An *external* module is left to the environment in which a bundle runs.  It is
requested there by a request seen from a reference directory.

Libraries may be bundled *in place*: normal ones by a request without loaders,
dynamic ones by a request with loaders.  What is not found is external unless
normal libraries are in place, and so is what the included selectors select.
The excluded selectors and the entry modules are next, and they are internal.
All others are external when nothing speaks for their place in the bundle.
-/

namespace BundleConfig

/-- By what a request is external. -/
structure ExternalOptions where
  /-- The directory the request is made from. -/
  requestContext : Path
  /-- The directory external requests are seen from. -/
  reference : Path
  /-- The specifiers of the entry modules. -/
  entries : List String := []
  /-- The directories whose modules count as libraries. -/
  locations : List String := ["node_modules"]
  /-- What is external. -/
  included : List Selector := []
  /-- What is internal. -/
  excluded : List Selector := []
  /-- Whether libraries are bundled. -/
  normalInPlace : Bool := false
  /-- Whether modules with loaders are bundled. -/
  dynamicInPlace : Bool := true

namespace ExternalOptions

/-- The usual options for requests from a directory. -/
def ofContext (fs : FileSystem) (directory : Path) (entries : List String) : ExternalOptions :=
  let directory := fs.absolute directory
  { requestContext := directory, reference := directory, entries := entries }

end ExternalOptions

namespace Resolver

/-- The resolver that finds files with external extensions, without
rewriting. -/
def forExternals (r : Resolver) (directory : Path) : Resolver :=
  { r.seenFrom directory with
    rewriting := {}
    endings := { r.endings with internalExtensions := r.endings.externalExtensions } }

/-- The rendering of the extension of a file with its dot, or nothing. -/
def dottedExtension (p : Path) : String :=
  match p.extension with
  | some extension => "." ++ extension.text
  | none => ""

/-- Whether the file of a request has an external extension. -/
def hasExternalExtension (r : Resolver) (file : Option Path) : Bool :=
  let extensions := r.endings.externalExtensions
  extensions.isEmpty || extensions.contains ((file.map dottedExtension).getD "")

/-- Whether the file of a request lies outside of the project. -/
def isOutside (r : Resolver) (fs : FileSystem) (o : ExternalOptions) : Option Path → Bool
  | some p =>
      let locations := o.locations.map fun (location : String) => fs.resolve r.context ⟨location⟩
      !p.startsWith r.context || fs.isIn p locations
  | none => o.dynamicInPlace

/-- The request of a specifier in the environment, if it is external. -/
def externalRequest (r : Resolver) (fs : FileSystem) (o : ExternalOptions) (specifier : String) :
    Option String :=
  let request := r.rewriting.apply (String.ofList (Specifier.ofText specifier).afterLoaders)
  let externally := r.rewriting.rebase fs request o.requestContext o.reference o.locations
  let file := (r.forExternals o.requestContext).resolve fs request
  let isEntry (entry : String) := sameFile ((r.seenFrom o.requestContext).resolve fs entry) file
  if (file.isNone && !o.normalInPlace) || Selector.anySelects o.included request then
    some externally
  else if Selector.anySelects o.excluded request then none
  else if o.entries.any isEntry then none
  else if !o.normalInPlace && r.hasExternalExtension file
      && !(o.dynamicInPlace && specifier.toList.contains '!') && r.isOutside fs o file then
    some externally
  else none

end Resolver

end BundleConfig
