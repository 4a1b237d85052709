import BundleConfig.Configuration.Load

/-!
# Caching

A cache keeps loaded values by the options they were loaded for.  Options that
are the same up to the spelling of the context are one key.  A load that fails
leaves the cache as it is.  Nothing leaves the cache unless it is told to.

Of the options a cache only needs to know when they are equal, so `Memo` is for
options of any type.
-/

namespace BundleConfig

/-- Loaded values by what they were loaded for. -/
structure Memo (κ α : Type) where
  /-- The values, oldest first. -/
  entries : List (κ × α) := []

namespace Memo

variable {κ α : Type} [BEq κ]

/-- The value of options. -/
def get? (c : Memo κ α) (o : κ) : Option α :=
  (c.entries.find? (·.1 == o)).map (·.2)

/-- The cache without the value of options. -/
def erase (c : Memo κ α) (o : κ) : Memo κ α :=
  ⟨c.entries.filter (!·.1 == o)⟩

/-- The cache with a value for options. -/
def insert (c : Memo κ α) (o : κ) (a : α) : Memo κ α :=
  ⟨(c.erase o).entries ++ [(o, a)]⟩

/-- The empty cache. -/
def clear (_ : Memo κ α) : Memo κ α := {}

/-- How many values the cache keeps. -/
def size (c : Memo κ α) : Nat := c.entries.length

/-- Whether the cache keeps nothing. -/
def isEmpty (c : Memo κ α) : Bool := c.entries.isEmpty

/-- What a request of a value comes to. -/
structure Outcome (κ α : Type) where
  /-- The cache afterwards. -/
  cache : Memo κ α
  /-- The files afterwards. -/
  files : FileSystem
  /-- The value. -/
  value : Except ConfigError α
  /-- Whether the loader ran. -/
  loaded : Bool

/-- The value of options, by the loader when the cache has none. -/
def fetch (c : Memo κ α) (fs : FileSystem) (o : κ)
    (loader : FileSystem → FileSystem × Except ConfigError α) : Outcome κ α :=
  match c.get? o with
  | some a => ⟨c, fs, .ok a, false⟩
  | none =>
      match loader fs with
      | (fs, .ok a) => ⟨c.insert o a, fs, .ok a, true⟩
      | (fs, .error e) => ⟨c, fs, .error e, true⟩

end Memo

/-- Options are equal up to the spelling of the context. -/
instance : BEq Purpose := ⟨Purpose.same⟩

/-- Loaded values by options. -/
abbrev Cache (α : Type) := Memo Purpose α

end BundleConfig
