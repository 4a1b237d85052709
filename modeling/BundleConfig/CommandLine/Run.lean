import BundleConfig.CommandLine.Command
import BundleConfig.CommandLine.Report
import BundleConfig.Configuration.Load

/-!
# Running a command

A command is run on the files it sees, and its *outcome* is what it writes and
how it ends.  The one file it may use up is gone in the files of the outcome.
-/

namespace BundleConfig

namespace CommandLine

/-- What a run comes to. -/
structure Outcome where
  /-- The exit code: 0 for success, 1 for a failure, 2 for misuse. -/
  code : Nat
  /-- What goes to the standard output. -/
  output : String
  /-- The report of a failure. -/
  report : String
  /-- The files afterwards. -/
  files : FileSystem

/-- A failure of a command, with its causes. -/
structure Failure where
  /-- What failed. -/
  text : String
  /-- Why it failed. -/
  causes : List String

/-! ## Output -/

/-- The text of a value: a string as it is, and all else as a tree. -/
def valueText : Json → String
  | .string text => text
  | v => v.toIndented

/-- The layers as a tree. -/
def layersToJson (layers : List (LayerOrigin × String)) : Json :=
  .array (layers.map fun (kind, name) =>
    .object [("kind", .string kind.toText), ("name", .string name)])

/-- Shows a part of the configuration. -/
def showPart (c : Configuration) : Shown → Except Failure String
  | .all => pure (valueText c.tree)
  | .layers => pure (valueText (layersToJson c.layers))
  | .node path =>
      match c.get? path with
      | some v => pure (valueText v)
      | none => throw ⟨"No configuration value at '" ++ path ++ "'", []⟩

/-- Looks up a module. -/
def locate (fs : FileSystem) (c : Configuration) (specifier : String)
    (directory : Option String) : Except Failure String :=
  let directory := (directory.map Path.mk).getD c.project.directory
  match c.modulePath fs specifier (some directory) with
  | some p =>
      match c.externalRequest fs specifier directory with
      | some request => pure ("external " ++ request)
      | none => pure p.text
  | none =>
      if c.mayBeExternal specifier then pure ("external " ++ specifier)
      else throw ⟨"Given request \"" ++ specifier ++ "\" couldn't be resolved", []⟩

/-- The label of an internal module. -/
def labelOf (plain : Bool) (m : EntryModule) : String :=
  if plain then m.request
  else
    let place := m.request ++ " -> " ++ ((m.file.map Path.text).getD "")
    match m.assetType with
    | some name => place ++ " [" ++ name ++ "]"
    | none => place

/-- The entries as a tree of labels. -/
def entriesOutline (c : Configuration) (plain : Bool) : Outline :=
  let chunks := c.bundle.modules.map fun (name, modules) =>
    Outline.node name (((modules.filter (·.isInternal)).map (labelOf plain)).map .leaf)
  let external := if c.bundle.external.isEmpty then []
    else [Outline.node "(external)" (c.bundle.external.map .leaf)]
  .node ("entries of " ++ c.project.directory.text) (chunks ++ external)

/-- What an action writes. -/
def perform (fs : FileSystem) (c : Configuration) : Action → Except Failure String
  | .show part => (showPart c part).map (· ++ "\n")
  | .locate specifier directory => (locate fs c specifier directory).map (· ++ "\n")
  | .entries plain => pure (entriesOutline c plain).draw

/-! ## Runs -/

/-- The failure to compose a configuration. -/
def loadFailure (a : ComposeArguments) (e : ConfigError) : Failure :=
  let place := match a.context with
    | some context => " for " ++ context
    | none => ""
  ⟨"Failed to compose configuration" ++ place, e.chain⟩

/-- Runs a command. -/
def runCommand (fs : FileSystem) (now : Timestamp) (command : Command) : Outcome :=
  let (fs, loaded) := Configuration.load fs (command.load.toPurpose now)
  let written := match loaded with
    | .ok c => perform fs c command.action
    | .error e => .error (loadFailure command.load e)
  match written with
  | .ok output => ⟨0, output, "", fs⟩
  | .error failure => ⟨1, "", failureReport failure.text failure.causes, fs⟩

/-- How the program is used. -/
def usage : String :=
  "Usage: " ++ programName ++ " [--log-level LEVEL] COMMAND\n\n" ++
  "Commands:\n" ++
  "  show [--path KEY_PATH | --layers]         Print the resolved configuration\n" ++
  "  locate SPECIFIER [--context-dir DIR]      Resolve a single module specifier\n" ++
  "  entries [--plain]                         Display the resolved entry chunks\n\n" ++
  "Every command takes [--context DIR] [--debug | --no-debug] [--task NAME] [JSON].\n"

/-- Runs the program on the words of a command line. -/
def run (fs : FileSystem) (env : Environment) (now : Timestamp) (words : List String) :
    Outcome :=
  match readCommand env words with
  | .ok command => runCommand fs now command
  | .error .version => ⟨0, programName ++ " " ++ programVersion ++ "\n", "", fs⟩
  | .error .help => ⟨0, usage, "", fs⟩
  | .error .misuse => ⟨2, "", usage, fs⟩

end CommandLine

end BundleConfig
