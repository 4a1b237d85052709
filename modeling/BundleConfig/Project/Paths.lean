import BundleConfig.Evaluation

/-!
# Absolute paths of a project

The section `path` of a configuration has the directories of a project, in
groups.  A group has a base, and its members are seen from there.  The base of a
group is seen from the base of the group around it, and the outermost base from
the context.

Making the section absolute replaces every member that is a text.  In a group the
members `base` and `public` are no such members, and expression nodes and the
outermost `configuration` group stay as they are.
-/

namespace BundleConfig

namespace ProjectPaths

/-- The text of an entry, or the empty text. -/
def textAt (entries : Table Json) (key : String) : String :=
  ((entries.get? key).bind Json.text?).getD ""

/-- The tree of a directory, as it is rendered. -/
def spelled (p : Path) : Json := .string p.withSlash

/-- The members of a group that are never seen from its base. -/
def isLiteralKey (key : String) : Bool := key == "base" || key == "public"

mutual

/-- A member of a group with the given base, made absolute. -/
def resolveMember (fs : FileSystem) (base : Path) : Json → Json
  | .string text => spelled (fs.resolve base ⟨text⟩)
  | .object entries =>
      if (Evaluation.sourceOfEntries? entries).isSome then .object entries
      else
        let inner := fs.resolve base ⟨textAt entries "base"⟩
        .object (Table.insert (resolveMembers fs inner entries) "base" (spelled inner))
  | v => v
termination_by structural v => v

/-- The members of a group with the given base, made absolute. -/
def resolveMembers (fs : FileSystem) (base : Path) :
    List (String × Json) → List (String × Json)
  | [] => []
  | (key, v) :: rest =>
      (key, if isLiteralKey key then v else resolveMember fs base v)
        :: resolveMembers fs base rest
termination_by structural entries => entries

end

/-- Whether an entry of the section stays as it is. -/
def isFixed (key : String) (v : Json) : Bool :=
  key == "base" || key == "context" || (key == "configuration" && v.isObject)

/-- The section made absolute, seen from a context. -/
def resolveAll (fs : FileSystem) (context : Path) : Json → Except ConfigError Json
  | .object entries =>
      let base := fs.resolve context ⟨textAt entries "base"⟩
      let entries := (Table.insert entries "context" (spelled context)).insert "base" (spelled base)
      pure (.object (entries.map fun (key, v) =>
        (key, if isFixed key v then v else resolveMember fs base v)))
  | v => throw (.misfit "path" (.notMapping v))

/-! ## Files built ahead -/

/-- How the names of the manifests of libraries that are built ahead end. -/
def prebuiltSuffix : String := ".dll-manifest.json"

/-- The manifests of libraries built ahead in a directory, sorted. -/
def prebuiltManifests (fs : FileSystem) (directory : Path) : List Path :=
  (((fs.list? directory).getD []).filter fun name => name.text?.any fun text =>
    (Text.dropEnd? prebuiltSuffix.toList text.toList).isSome).map directory.entry

end ProjectPaths

end BundleConfig
