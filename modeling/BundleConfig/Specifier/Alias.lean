import BundleConfig.Table
import BundleConfig.Text.Basic

/-!
# Aliases

An alias gives a request another name.  A key that ends in a dollar sign is the
whole request before that sign, and the value takes its place.  Every other key
is looked for inside the request, and the value takes the place of its first
occurrence.  The empty key is in no request.

Only the first alias that fits is applied, and it is applied once.
-/

namespace BundleConfig

/-- Values by the names they stand for, tried in order. -/
abbrev Aliases := Table String

namespace Aliases

/-- What one alias makes of a request. -/
def rewrite? (key value request : String) : Option String :=
  match Text.dropEnd? ['$'] key.toList with
  | some whole => if request.toList = whole then some value else none
  | none =>
      if key.isEmpty then none
      else
        (Text.cut? key.toList request.toList).map fun (before, after) =>
          String.ofList (before ++ value.toList ++ after)

/-- What the first alias that fits makes of a request. -/
def firstRewrite? (t : Aliases) (request : String) : Option String :=
  List.findSome? (fun (key, value) => rewrite? key value request) t

/-- The request after the aliases. -/
def apply (t : Aliases) (request : String) : String :=
  (t.firstRewrite? request).getD request

/-- Whether a key is the request or is found in it. -/
def keyFits (key request : String) : Bool :=
  match Text.dropEnd? ['$'] key.toList with
  | some whole => request.toList == whole
  | none => !key.isEmpty && Text.occurs key.toList request.toList

/-- Whether an alias fits the request. -/
def fits (t : Aliases) (request : String) : Bool := t.keys.any (keyFits · request)

end Aliases

end BundleConfig
