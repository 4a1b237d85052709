import BundleConfig.Json.Decode
import BundleConfig.Pattern.Search

/-!
# Rewrite rules

A rewrite rule replaces the first match of its pattern in a request.  The new
text is a template, or a caller computes it from the match.  All rules of a list
are applied in order, each to the result of the one before it.

Rules are written as a mapping from patterns to templates.
-/

namespace BundleConfig

/-- What takes the place of a match. -/
inductive Substitute
  /-- A template with references to groups. -/
  | template (text : String)
  /-- A function of the match. -/
  | computed (value : Pattern.Match → List Char)

/-- A pattern and what takes the place of its match. -/
structure RewriteRule where
  /-- The text of the pattern. -/
  source : String
  /-- The pattern. -/
  expression : Pattern.Expression
  /-- What takes the place of a match. -/
  replacement : Substitute

/-- Rules, applied in order. -/
abbrev RewriteRules := List RewriteRule

namespace RewriteRule

/-- The rule of a pattern text. -/
def ofSource (source : String) (replacement : Substitute) : Except Pattern.Problem RewriteRule :=
  (Pattern.ofText source).map fun expression => ⟨source, expression, replacement⟩

/-- The request after a rule. -/
def apply (rule : RewriteRule) (request : String) : String :=
  match rule.replacement with
  | .template text => rule.expression.replace text request
  | .computed value => rule.expression.replaceWith value request

/-- The template of a rule as it is written.  A function has no template. -/
def writtenTemplate (rule : RewriteRule) : String :=
  match rule.replacement with
  | .template text => text
  | .computed _ => "[function]"

end RewriteRule

namespace RewriteRules

/-- The request after all rules. -/
def apply (t : RewriteRules) (request : String) : String :=
  List.foldl (fun request rule => RewriteRule.apply rule request) request t

/-- The table as a mapping of pattern texts to templates. -/
def toJson (t : RewriteRules) : Json :=
  .object (Table.ofList (List.map
    (fun rule => (rule.source, Json.string rule.writtenTemplate)) t))

/-- The table a mapping of pattern texts to templates stands for. -/
def decode (v : Json) : Except Mismatch RewriteRules := do
  let pairs ← Decode.table Decode.text v
  pairs.mapM fun (source, text) =>
    (RewriteRule.ofSource source (.template text)).mapError .pattern

end RewriteRules

end BundleConfig
