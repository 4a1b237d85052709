import BundleConfig.Json.Reader
import BundleConfig.Layer.Basic

/-!
# Dynamic configuration files

A dynamic configuration file is for one use.  Such files are numbered from zero
on, and the one with the highest number is used: it is read and deleted, and
only then it is looked at.  A file that cannot be read is not deleted.

Without one the runtime layer records the arguments of the program.
-/

namespace BundleConfig

namespace DynamicFile

/-- How the names of the files start. -/
def nameStart : String := ".dynamicConfiguration-"

/-- The file of a number. -/
def numbered (context : Path) (number : Nat) : Path :=
  context.entry (nameStart ++ toString number ++ ".json")

/-- The files from a number on up to the first that is missing, at most `count`
of them. -/
def consecutive (fs : FileSystem) (context : Path) (number : Nat) : (count : Nat) → List Path
  | 0 => []
  | count + 1 =>
      let p := numbered context number
      if fs.isFile p then p :: consecutive fs context (number + 1) count else []

/-- The file with the highest number of those without a gap.  A directory with
`n` entries has at most `n` of them.  It is listed by the path of its entry `.`,
since the empty path has entries and denotes nothing itself. -/
def find? (fs : FileSystem) (context : Path) : Option Path :=
  let count := ((fs.list? (context.entry ".")).getD []).length
  (consecutive fs context 0 count).getLast?

/-- The settings in the text of a file. -/
def parse (p : Path) (text : String) : Except ConfigError Json :=
  match Json.read text with
  | .error fault => .error (.dynamicFile p (.malformed fault))
  | .ok (.object entries) => .ok (.object entries)
  | .ok _ => .error (.dynamicFile p .notObject)

/-- Uses up the file of a context, if there is one. -/
def consume (fs : FileSystem) (context : Path) :
    FileSystem × Except ConfigError (Option Json) :=
  match find? fs context with
  | none => (fs, .ok none)
  | some p =>
      match fs.readText p with
      | .error fault => (fs, .error (.dynamicFile p (.unreadable fault)))
      | .ok text =>
          match fs.delete p with
          | .error fault => (fs, .error (.dynamicFile p (.undeletable fault)))
          | .ok fs => (fs, (parse p text).map some)

/-- The key of the arguments of the program. -/
def argumentsKey : String := "givenCommandLineArguments"

/-- The arguments that settings record. -/
def givenArguments? (settings : Json) : Option (List String) :=
  (settings.get? argumentsKey).bind Json.texts?

/-- The layer of the settings, or of the arguments. -/
def layer (settings : Option Json) (arguments : List String) : Layer :=
  match settings with
  | some tree => ⟨.dynamicFile, "dynamic-file", tree⟩
  | none => ⟨.dynamicFile, "command-line", .object [(argumentsKey, .ofTexts arguments)]⟩

end DynamicFile

end BundleConfig
