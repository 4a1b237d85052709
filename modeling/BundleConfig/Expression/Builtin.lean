import BundleConfig.Error
import BundleConfig.Expression.Value
import BundleConfig.Pattern.Search

/-!
# Built-in functions

The functions an expression can call.  All but one belong to a group, and the
group is written before the name.  Three read files, and nothing else in an
expression touches the file system.

Relative paths are seen from the current path of the expression.

All functions but `array.includes` take strings.  Too few arguments are
reported before one that is no string.
-/

namespace BundleConfig

namespace Expression

/-- A group of functions. -/
inductive Group
  | path
  | fs
  | string
  | array
deriving DecidableEq

/-- The name of a group. -/
def Group.name : Group → String
  | path => "path"
  | fs => "fs"
  | string => "string"
  | array => "array"

/-- The group of a name. -/
def Group.ofName? (name : String) : Option Group :=
  [path, fs, string, array].find? fun g => g.name == name

/-- A function. -/
inductive Builtin
  | pathResolve
  | pathJoin
  | pathDirname
  | pathBasename
  | fsIsFile
  | fsIsDirectory
  | fsRead
  | require
  | stringReplace
  | arrayIncludes
deriving DecidableEq

namespace Builtin

/-- The full name of a function. -/
def name : Builtin → String
  | pathResolve => "path.resolve"
  | pathJoin => "path.join"
  | pathDirname => "path.dirname"
  | pathBasename => "path.basename"
  | fsIsFile => "fs.isFile"
  | fsIsDirectory => "fs.isDirectory"
  | fsRead => "fs.read"
  | require => "require"
  | stringReplace => "string.replace"
  | arrayIncludes => "array.includes"

/-- All functions. -/
def all : List Builtin :=
  [pathResolve, pathJoin, pathDirname, pathBasename, fsIsFile, fsIsDirectory, fsRead, require,
    stringReplace, arrayIncludes]

/-- The function of a full name. -/
def ofName? (name : String) : Option Builtin := all.find? fun f => f.name == name

/-- What a function sees. -/
structure Environment where
  /-- The files. -/
  files : FileSystem
  /-- The path relative paths are seen from. -/
  currentPath : Path
  /-- The expression, for messages. -/
  source : String

namespace Environment

/-- Fails with a problem of the expression. -/
def fail {α : Type} (env : Environment) (problem : ExpressionProblem) : Except ConfigError α :=
  .error (.expression env.source problem)

/-- The result of a step that may have a problem. -/
def lift {α : Type} (env : Environment) (step : Except ExpressionProblem α) :
    Except ConfigError α :=
  step.mapError (.expression env.source)

end Environment

/-- The arguments as strings, of which there are at least `least`. -/
def strings (function : String) (least : Nat) (arguments : List Json) :
    Except ExpressionProblem (List String) :=
  if arguments.length < least then
    .error (.tooFewArguments function least arguments.length)
  else
    arguments.mapM fun argument =>
      match argument with
      | .string text => .ok text
      | other => .error (.notString function other)

/-- The directory part of a path. -/
def dirname (text : String) : String :=
  match (Path.mk text).parent with
  | some parent => if parent.bytes.isEmpty then "." else parent.text
  | none => text

/-- The last name of a path, without an ending it does not consist of. -/
def basename (text : String) (ending : Option String) : String :=
  let name := ((Path.mk text).fileName.map RawText.text).getD ""
  match ending with
  | none => name
  | some ending =>
      if name = ending then name
      else ((Text.dropEnd? ending.toList name.toList).map String.ofList).getD name

/-- The pattern between two slashes. -/
def slashed? (text : String) : Option String :=
  ((Text.dropStart? ['/'] text.toList).bind (Text.dropEnd? ['/'])).map String.ofList

/-- The text with the first occurrence of a text or match of a pattern
replaced. -/
def replaceIn (text target value : String) : Except ConfigError String :=
  match slashed? target with
  | some written =>
      ((Pattern.ofText written).mapError .pattern).map fun e => e.replace value text
  | none => .ok (String.ofList (Text.replaceFirst target.toList value.toList text.toList))

/-- The value of a call. -/
def call (env : Environment) (function : Builtin) (arguments : List Json) :
    Except ConfigError Json := do
  let texts (least : Nat) : Except ConfigError (List String) :=
    env.lift (strings function.name least arguments)
  let place (parts : List String) : Path :=
    env.files.resolve env.currentPath ⟨parts.headD ""⟩
  match function with
  | pathResolve =>
      let parts ← texts 0
      let resolved := parts.foldl (fun base (part : String) => env.files.resolve base ⟨part⟩)
        (env.files.absolute env.currentPath)
      pure (.string resolved.text)
  | pathJoin =>
      let parts ← texts 1
      pure (.string (Path.clean ⟨"/".intercalate parts⟩).text)
  | pathDirname =>
      let parts ← texts 1
      pure (.string (dirname (parts.headD "")))
  | pathBasename =>
      let parts ← texts 1
      pure (.string (basename (parts.headD "") parts[1]?))
  | fsIsFile =>
      let parts ← texts 1
      pure (.bool (env.files.isFile (place parts)))
  | fsIsDirectory =>
      let parts ← texts 1
      pure (.bool (env.files.isDirectory (place parts)))
  | fsRead =>
      let file := place (← texts 1)
      match env.files.readText file with
      | .ok text => pure (.string text)
      | .error fault => env.fail (.cannotRead file fault)
  | require =>
      let file := place (← texts 1)
      match env.files.readText file with
      | .error fault => env.fail (.cannotLoad file fault)
      | .ok text =>
          match Json.read text with
          | .ok v => pure v
          | .error fault => env.fail (.cannotParse file fault)
  | stringReplace =>
      match ← texts 3 with
      | text :: target :: value :: _ => pure (.string (← replaceIn text target value))
      | _ => env.fail (.tooFewArguments function.name 3 arguments.length)
  | arrayIncludes =>
      match arguments with
      | [.array items, v] => pure (.bool (items.any fun item => alike item v))
      | [.string text, .string part] => pure (.bool (Text.occurs part.toList text.toList))
      | _ => env.fail .wrongIncludes

end Builtin

end Expression

end BundleConfig
