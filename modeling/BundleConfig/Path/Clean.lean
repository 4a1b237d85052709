import BundleConfig.Path.Basic

/-!
# Clean paths

Cleaning a path follows its `..` components on paper, without looking at any
file: a `..` takes away the name before it, and at the root it does nothing.  A
relative path may keep `..` components at its start.  A path of which nothing is
left becomes `.`.

Resolving a path against a base gives an absolute clean path.  A relative base
is seen from the working directory.
-/

namespace BundleConfig

namespace Path

/-- One more component onto a clean path, whose components are given last
first. -/
def cleanStep (stack : List Component) : Component → List Component
  | .here => stack
  | .up =>
      match stack with
      | .root :: _ => stack
      | .normal _ :: rest => rest
      | _ => .up :: stack
  | c => c :: stack

/-- The components of the clean path, in order. -/
def cleanComponents (components : List Component) : List Component :=
  (components.foldl cleanStep []).reverse

/-- The clean path. -/
def clean (p : Path) : Path :=
  match cleanComponents p.components with
  | [] => ofBytes [RawText.dot]
  | components => ofComponents components

/-- The absolute clean path, seen from the working directory. -/
def absolute (p cwd : Path) : Path :=
  if p.isAbsolute then p.clean else (cwd.join p).clean

/-- The path `p` resolved against `base`. -/
def resolve (base p cwd : Path) : Path :=
  if p.isAbsolute then p.clean else (base.join p).absolute cwd

/-- Whether the path is one of the locations or lies below one. -/
def isIn (p cwd : Path) (locations : List Path) : Bool :=
  locations.any fun location => (p.absolute cwd).startsWith (location.absolute cwd)

/-- The renderings of clean paths, each once, in the order of their first
occurrence. -/
def normalizeAll (paths : List String) : List String :=
  paths.foldl
    (fun seen (path : String) =>
      let spelling := (clean ⟨path⟩).text
      if seen.contains spelling then seen else seen ++ [spelling])
    []

end Path

end BundleConfig
