import BundleConfig.Json.Basic

/-!
# Comments

An entry with the key `#` is a comment, at whatever depth it stands.
-/

namespace BundleConfig

namespace Merge

/-- The key of a comment. -/
def commentKey : String := "#"

mutual

/-- The tree without comments. -/
def removeComments : Json → Json
  | .array items => .array (removeItemComments items)
  | .object entries => .object (removeEntryComments entries)
  | v => v
termination_by structural v => v

/-- The items without comments inside them. -/
def removeItemComments : List Json → List Json
  | [] => []
  | v :: rest => removeComments v :: removeItemComments rest
termination_by structural items => items

/-- The entries that are no comments, without comments inside them. -/
def removeEntryComments : List (String × Json) → List (String × Json)
  | [] => []
  | (key, v) :: rest =>
      if key = commentKey then removeEntryComments rest
      else (key, removeComments v) :: removeEntryComments rest
termination_by structural entries => entries

end

end Merge

end BundleConfig
