import BundleConfig.Expression.Problem
import BundleConfig.Json.Decode
import BundleConfig.Pattern.Glob

/-!
# Errors

Composing a configuration fails for one of the causes listed here.  Each cause
keeps what its message names.  `ConfigError.message` has the wording.

Part of a wording may come from the file system or from a reader.
`ConfigError.summary` is the wording without that part.

A message renders the paths it names.  A tree does not: it has a path only if the
path is a text.
-/

namespace BundleConfig

/-- Why two trees do not fit, or a tree does not fit its purpose. -/
inductive ShapeProblem
  /-- An array for a mapping that has entries. -/
  | arrayOntoMapping
  /-- A mapping for an array that has items. -/
  | mappingOntoArray
  /-- Additions to what is no array, by the name of the directive. -/
  | noArrayTarget (directive : String)
  /-- Something else than module specifiers. -/
  | notSpecifiers (found : Json)
  /-- Something else than a mapping, which is named. -/
  | notMapping (found : Json)
  /-- Something else than a mapping. -/
  | expectedMapping
  | missing
  /-- A section that does not have the fields it should have. -/
  | malformed (fault : Mismatch)

/-- What refers back to itself. -/
inductive Cycle
  /-- A tree that nests deeper than `limit` at a path. -/
  | nesting (limit : Nat) (path : KeyPath)
  /-- Nodes of which each reads the next. -/
  | reading (nodes : List KeyPath)

/-- Why a one-shot file could not be used. -/
inductive DynamicProblem
  | unreadable (fault : FileError)
  | undeletable (fault : FileError)
  | malformed (fault : Json.ReadError)
  | notObject

/-- Why a source of configuration could not be read. -/
inductive SourceProblem
  | invalidOverride (fault : Json.ReadError)
  | overrideNotObject (found : Json)
  | unknownReference (name : String)
  | malformedReference (file : Path) (fault : Json.ReadError)
  | invalidBuildTypes (fault : Mismatch)
  /-- A loader of the caller that refuses. -/
  | refused (reason : String)

/-- Why there is no configuration. -/
inductive ConfigError
  | shape (path : KeyPath) (problem : ShapeProblem)
  /-- A section of a composed tree that does not fit, by the text of its path. -/
  | misfit (path : String) (problem : ShapeProblem)
  | unresolvable (request chunk : String)
  | cyclic (cycle : Cycle)
  | dynamicFile (file : Path) (problem : DynamicProblem)
  | expression (source : String) (problem : ExpressionProblem)
  | source (problem : SourceProblem)
  | file (fault : FileError)
  | json (fault : Mismatch)
  /-- A path that is to stand in a tree and is no text. -/
  | pathNotText
  | pattern (problem : Pattern.Problem)
  | glob (problem : Glob.Problem)

/-- The wording of a shape problem, unless a reader words it. -/
def ShapeProblem.summary : ShapeProblem → Option String
  | arrayOntoMapping => some "cannot replace a mapping with an array; use __replace__"
  | mappingOntoArray => some "cannot merge a mapping into an array; use __replace__"
  | noArrayTarget directive => some (directive ++ " requires an array target")
  | notSpecifiers found =>
      some ("expected a module specifier or a list of them, found " ++ found.toCompact)
  | notMapping found => some ("expected a mapping, found " ++ found.toCompact)
  | expectedMapping => some "expected a mapping"
  | missing => some "missing"
  | malformed _ => none

/-- What a reader says of a shape. -/
def ShapeProblem.detail : ShapeProblem → Option String
  | malformed fault => some fault.message
  | _ => none

/-- The wording of a cycle. -/
def Cycle.message : Cycle → String
  | nesting limit path =>
      "merge input nests deeper than " ++ toString limit ++ " levels at '" ++ path.toText ++ "'"
  | reading nodes => " -> ".intercalate (nodes.map KeyPath.toText)

/-- The wording of a problem with a one-shot file, unless others word it. -/
def DynamicProblem.summary : DynamicProblem → Option String
  | notObject => some "expected a JSON object"
  | _ => none

/-- What others say of a one-shot file. -/
def DynamicProblem.detail : DynamicProblem → Option String
  | unreadable fault => some fault.message
  | undeletable fault => some ("cannot delete: " ++ fault.message)
  | malformed fault => some fault.message
  | notObject => none

/-- The wording of a problem with a source. -/
def SourceProblem.summary : SourceProblem → String
  | invalidOverride _ => "Invalid configuration override"
  | overrideNotObject found =>
      "Configuration override must be a JSON object, found " ++ found.toCompact
  | unknownReference name => "Unknown configuration reference " ++ name
  | malformedReference file _ => "Referenced file " ++ file.text ++ " is malformed"
  | invalidBuildTypes _ => "Invalid build type descriptors"
  | refused reason => reason

/-- What a reader says of a source. -/
def SourceProblem.detail : SourceProblem → Option String
  | invalidOverride fault => some fault.message
  | malformedReference _ fault => some fault.message
  | invalidBuildTypes fault => some fault.message
  | _ => none

/-- How a source can be mended. -/
def SourceProblem.hint : SourceProblem → Option String
  | invalidOverride _ => some "Pass the override as a JSON object, e.g. '\x7b\"debug\": true\x7d'"
  | unknownReference _ =>
      some "References name a top-level configuration key or an existing JSON file"
  | invalidBuildTypes _ => some "Each entry of buildContext.types must be a mapping"
  | _ => none

namespace ConfigError

/-- A text with an optional part after a colon. -/
def withDetail (text : String) : Option String → String
  | some detail => text ++ ": " ++ detail
  | none => text

/-- The wording of a shape problem at a place. -/
def shapeWording (full : Bool) (place : String) (problem : ShapeProblem) : String :=
  let text := withDetail ("Configuration shape error at '" ++ place ++ "'") problem.summary
  withDetail text (if full then problem.detail else none)

/-- What is said of a path that is no text. -/
def pathNotTextMessage : String := "path contains invalid UTF-8 characters"

/-- The wording, with or without what others say. -/
def wording (full : Bool) : ConfigError → String
  | shape path problem => shapeWording full path.toText problem
  | misfit path problem => shapeWording full path problem
  | unresolvable request chunk =>
      "Given request \"" ++ request ++ "\" in chunk \"" ++ chunk ++ "\" couldn't be resolved"
  | cyclic cycle => "Cyclic configuration detected: " ++ cycle.message
  | dynamicFile place problem =>
      let text := withDetail ("Dynamic configuration file " ++ place.text) problem.summary
      withDetail text (if full then problem.detail else none)
  | expression text problem =>
      "Expression error in \x60" ++ text ++ "\x60: " ++
        (if full then problem.message else problem.summary)
  | .source problem =>
      let text := "Configuration parsing error: " ++
        withDetail problem.summary (if full then problem.detail else none)
      match problem.hint with
      | some hint => text ++ "\n  hint: " ++ hint
      | none => text
  | .file fault => "I/O error: " ++ fault.message
  | json fault => "JSON error: " ++ fault.message
  | pathNotText => "JSON error: " ++ pathNotTextMessage
  | pattern problem => "Regex error: " ++ problem.message
  | glob problem => "Glob pattern error: " ++ problem.message

/-- The wording of an error. -/
def message (e : ConfigError) : String := e.wording true

/-- The wording of an error without what the file system or a reader says. -/
def summary (e : ConfigError) : String := e.wording false

/-- The wordings of an error and of what caused it. -/
def chain (e : ConfigError) : List String :=
  e.message :: match e with
    | .file fault => [fault.message]
    | json fault => [fault.message]
    | pathNotText => [pathNotTextMessage]
    | pattern problem => [problem.message]
    | glob problem => [problem.message]
    | _ => []

end ConfigError

namespace Path

/-- The tree of a path, which has to be a text. -/
def toJson (p : Path) : Except ConfigError Json :=
  match p.spelling.text? with
  | some text => pure (.string text)
  | none => throw .pathNotText

/-- The tree of a list of paths. -/
def listToJson (paths : List Path) : Except ConfigError Json := do
  pure (.array (← paths.mapM toJson))

end Path

end BundleConfig
