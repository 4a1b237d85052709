import BundleConfig.Pattern.Meaning
import BundleConfig.Pattern.Problem
import BundleConfig.Pattern.Reader.Term
import BundleConfig.Pattern.Size.Basic

/-!
# Expressions

A text is a pattern when it writes a term, the term has a meaning, and the
meaning is small enough.
-/

namespace BundleConfig

namespace Pattern

/-- A pattern with the number of its groups and their names. -/
structure Expression where
  /-- The pattern. -/
  pattern : Pattern
  /-- How many groups it has. -/
  groups : Nat
  /-- The names of groups with their numbers. -/
  names : List (String × Nat)

/-- The pattern of the term that a text writes. -/
def understand (text : String) : Except Refusal Expression := do
  let (term, groups, names) ← readTerm text
  let (pattern, _) ← term.meaning {}
  pure ⟨pattern, groups, names⟩

/-- The pattern a text stands for. -/
def ofText (text : String) : Except Problem Expression :=
  match understand text with
  | .error refusal => .error (.refused text refusal)
  | .ok expression =>
      if expression.pattern.fits then .ok expression else .error (.tooLarge maxSize)

end Pattern

end BundleConfig
