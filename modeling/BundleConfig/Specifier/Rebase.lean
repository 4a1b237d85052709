import BundleConfig.FileSystem.Basic
import BundleConfig.Specifier.Alias
import BundleConfig.Specifier.Basic
import BundleConfig.Specifier.RewriteRule

/-!
# Requests seen from elsewhere

A request that starts with `./` is seen from a context.  `Rewriting.rebase`
says it anew as seen from a reference directory.  The file it names is found on
paper.  When that file lies in a module location of the reference directory, or
in the reference directory itself, the request becomes the part of its path
below that place, rendered and rewritten.  Every other request stays as it is.
-/

namespace BundleConfig

/-- How requests are rewritten. -/
structure Rewriting where
  /-- The aliases, which come first. -/
  aliases : Aliases := []
  /-- The replacements, applied to what the aliases leave. -/
  replacements : RewriteRules := []

namespace Rewriting

/-- A request after aliases and replacements. -/
def apply (r : Rewriting) (request : String) : String :=
  r.replacements.apply (r.aliases.apply request)

/-- The bare request of a specifier after aliases and replacements. -/
def applyBare (r : Rewriting) (specifier : String) : String :=
  r.apply (Specifier.bareRequest specifier)

/-- The request `request`, seen from `context`, as seen from `reference`. -/
def rebase (r : Rewriting) (fs : FileSystem) (request : String) (context reference : Path)
    (locations : List String) : String :=
  let reference := fs.absolute reference
  if !"./".toList.isPrefixOf request.toList || (fs.absolute context).same reference then request
  else
    let place := fs.resolve context ⟨request⟩
    let tops :=
      locations.map (fun (location : String) => fs.resolve reference ⟨location⟩) ++ [reference]
    match tops.findSome? place.below? with
    | some rest => r.applyBare rest.text
    | none => request

end Rewriting

end BundleConfig
