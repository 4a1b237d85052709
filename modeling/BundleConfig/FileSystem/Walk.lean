import BundleConfig.FileSystem.Basic

/-!
# Walking directories

A walk visits what lies below a path: each directory before its entries, and the
entries in the order of their names.  It leaves out entries that a test refuses,
with everything below them.  Links below the path are visited, and not followed.
The path itself may be a link to a directory.  A directory whose path is too long
cannot be opened and counts as empty.

A walk over a path that is a file visits that file.
-/

namespace BundleConfig

namespace FileSystem

/-- Lists by name, in the order of the names. -/
def inNameOrder {α : Type} (lists : List (RawText × List α)) : List α :=
  (lists.mergeSort fun a b => decide (a.1 ≤ b.1)).flatMap (·.2)

mutual

/-- The files and links at or below a node at `p`. -/
def leavesAt (keep : Path → Bool) (p : Path) : Node → List (Path × Node)
  | .directory entries =>
      if keep p && !isTooLong p then inNameOrder (leavesByName keep p entries) else []
  | .file content => if keep p then [(p, .file content)] else []
  | .link target => if keep p then [(p, .link target)] else []
termination_by structural node => node

/-- The files and links at or below each entry of a directory at `p`, by the name
of the entry. -/
def leavesByName (keep : Path → Bool) (p : Path) :
    List (RawText × Node) → List (RawText × List (Path × Node))
  | [] => []
  | (name, node) :: rest =>
      (name, leavesAt keep (p.entry name) node) :: leavesByName keep p rest
termination_by structural entries => entries

end

/-- The files and links that a walk from a path visits. -/
def leaves (fs : FileSystem) (keep : Path → Bool) (p : Path) : List (Path × Node) :=
  match fs.find p false with
  | .ok (.link _) =>
      match fs.get? p with
      | some (.directory entries) => inNameOrder (leavesByName keep p entries)
      | _ => []
  | .ok node => leavesAt keep p node
  | .error _ => []

/-- The regular files that a walk from a path visits. -/
def walk (fs : FileSystem) (keep : Path → Bool) (p : Path) : List Path :=
  ((fs.leaves keep p).filter fun leaf => leaf.2.isFile).map (·.1)

end FileSystem

end BundleConfig
