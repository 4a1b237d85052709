import BundleConfig.Json.Decode
import BundleConfig.Pattern.Search

/-!
# Selecting requests

A *selector* says which requests a rule is about.  Written between slashes it is
a pattern that has to match somewhere in the request.  An `i` after the second
slash makes the pattern blind to case.  Every other text selects the request
that equals it.
-/

namespace BundleConfig

/-- Which requests a rule is about. -/
inductive Selector
  /-- The request of this text. -/
  | exact (text : String)
  /-- The requests in which a pattern matches, and the text of the selector. -/
  | matching (source : String) (expression : Pattern.Expression)

namespace Selector

/-- The pattern text in a selector that is written between slashes. -/
def patternSource? (text : String) : Option String :=
  match text.toList with
  | '/' :: body =>
      let (before, flags) := Text.cutAfterLast '/' body
      if before.isEmpty || flags.any (· != 'i') then none
      else if flags.isEmpty then some (String.ofList before.dropLast)
      else some ("(?i)" ++ String.ofList before.dropLast)
  | _ => none

/-- The selector of a text.  The pattern in it may be malformed. -/
def ofText (text : String) : Except Pattern.Problem Selector :=
  match patternSource? text with
  | some source => (Pattern.ofText source).map (matching text)
  | none => .ok (exact text)

/-- The text of a selector. -/
def source : Selector → String
  | exact text => text
  | matching source _ => source

/-- Whether the request is selected. -/
def selects (s : Selector) (request : String) : Bool :=
  match s with
  | exact text => text == request
  | matching _ expression => expression.matchesIn request

/-- Whether one of the selectors selects the request. -/
def anySelects (selectors : List Selector) (request : String) : Bool :=
  selectors.any (·.selects request)

/-- The selector that a text in a tree stands for. -/
def decode (v : Json) : Except Mismatch Selector := do
  let text ← Decode.text v
  (ofText text).mapError .pattern

end Selector

end BundleConfig
