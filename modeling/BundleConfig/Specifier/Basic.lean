import BundleConfig.Text.Basic

/-!
# Module specifiers

A *specifier* names a module as it is written in a source file.  It has three
parts.  The *loaders* are all up to its last exclamation mark.  The *request* is
what the module is looked up by.  The *query* starts with the first question
mark after the loaders.

A request may end in a *layer marker*, which is `.webpack` and two names in
brackets with a slash between them.  The *bare request* of a specifier is its
request without that marker.
-/

namespace BundleConfig

/-- A module specifier in its three parts. -/
structure Specifier where
  /-- The loaders with the exclamation mark after each of them. -/
  loaders : List Char
  /-- What the module is looked up by. -/
  request : List Char
  /-- The query with its question mark. -/
  query : List Char

namespace Specifier

/-- The specifier of characters. -/
def ofChars (cs : List Char) : Specifier :=
  let (loaders, rest) := Text.cutAfterLast '!' cs
  ⟨loaders, rest.takeWhile (· != '?'), rest.dropWhile (· != '?')⟩

/-- The specifier a text spells. -/
def ofText (text : String) : Specifier := ofChars text.toList

/-- What follows the loaders. -/
def afterLoaders (s : Specifier) : List Char := s.request ++ s.query

/-- The start of a layer marker. -/
def markerStart : List Char := ".webpack[".toList

/-- Whether a layer consists of two names with a slash between them. -/
def isLayer (cs : List Char) : Bool := (cs.drop 1).dropLast.contains '/'

/-- What stands before the first layer marker that reaches to the end. -/
def beforeMarker? : List Char → Option (List Char)
  | [] => none
  | c :: rest =>
      if markerStart.isPrefixOf (c :: rest)
          && isLayer ((c :: rest).drop markerStart.length).dropLast then
        some []
      else (beforeMarker? rest).map (c :: ·)

/-- The text without a layer marker at its end. -/
def dropLayerMarker (cs : List Char) : List Char :=
  if cs.getLast? = some ']' then (beforeMarker? cs).getD cs else cs

/-- The request of a specifier without loaders, query and layer marker. -/
def bareRequest (text : String) : String :=
  String.ofList (ofChars (dropLayerMarker (ofText text).afterLoaders)).request

/-- Whether a request is relative to the directory it is made from. -/
def isRelative (request : String) : Bool :=
  request == "." || request == ".." || "./".toList.isPrefixOf request.toList
    || "../".toList.isPrefixOf request.toList

/-- The texts without repetitions.  The first one of each stays. -/
def distinct (texts : List String) : List String :=
  texts.foldl (fun seen text => if seen.contains text then seen else seen ++ [text]) []

end Specifier

end BundleConfig
