import BundleConfig.Table
import BundleConfig.Text.Basic

/-!
# Output path templates

A template of an output path has placeholders in brackets.  Values are filled in
by placeholder, in the order of the values.  A standard placeholder without a
value is filled with a dummy first.
-/

namespace BundleConfig

namespace Template

/-- The placeholders that are always filled. -/
def standardPlaceholders : List String :=
  ["[name]", "[id]", "[hash]", "[chunkhash]", "[contenthash]"]

/-- What fills a standard placeholder without a value. -/
def dummyValue : String := ".__dummy__"

/-- The text with every occurrence of a placeholder filled. -/
def fill (text : List Char) (placeholder value : String) : List Char :=
  Text.replaceAll placeholder.toList value.toList text

/-- The template with dummies for the standard placeholders without a value, and
then with the values. -/
def render (template : String) (values : Table String) : String :=
  let dummies := standardPlaceholders.filter fun placeholder => !values.contains placeholder
  let text := dummies.foldl (fun text placeholder => fill text placeholder dummyValue)
    template.toList
  String.ofList (values.foldl (fun text (placeholder, value) => fill text placeholder value) text)

end Template

end BundleConfig
