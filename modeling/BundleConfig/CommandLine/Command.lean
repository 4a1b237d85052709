import BundleConfig.CommandLine.Arguments
import BundleConfig.Configuration.Options

/-!
# Commands

The program has a command that shows a configuration, one that looks up a module
and one that lists the entries of a bundle.  All of them compose a configuration
first, and they have the same options for that.

Some settings may come from the environment.  A word of the command line goes
before the environment.  The debug mode cannot be turned off on the command line
while the environment speaks of it.
-/

namespace BundleConfig

namespace CommandLine

/-- The name of the program. -/
def programName : String := "asset-composer"

/-- The version of the program. -/
def programVersion : String := "0.1.0"

/-- The variables of the environment. -/
abbrev Environment := String → Option String

/-- What a configuration is composed for, as the command line says it. -/
structure ComposeArguments where
  /-- Where the project is looked for. -/
  context : Option String
  /-- Whether the debug mode is on. -/
  debug : Option Bool
  /-- The task. -/
  task : Option String
  /-- The text of an override. -/
  override : Option String

/-- The part of a configuration that is shown. -/
inductive Shown
  | all
  | node (path : String)
  | layers

/-- What the program is asked to do. -/
inductive Action
  /-- To show a part of the configuration. -/
  | show (part : Shown)
  /-- To look up a module as seen from a directory. -/
  | locate (specifier : String) (directory : Option String)
  /-- To list the entries, perhaps by their specifiers only. -/
  | entries (plain : Bool)

/-- An action on a configuration. -/
structure Command where
  /-- What to do. -/
  action : Action
  /-- The configuration. -/
  load : ComposeArguments

/-! ## Grammars -/

/-- The rule of an option that takes any value. -/
def textOption (name : String) : Rule := { name := name, accepts := some fun _ => true }

/-- The rule of an option that takes a path. -/
def pathOption (name : String) : Rule :=
  { name := name, accepts := some fun value => !value.isEmpty }

/-- The rule of a flag. -/
def flag (name : String) : Rule := { name := name }

/-- The levels of the log. -/
def logLevels : List String := ["error", "warn", "info", "debug", "trace"]

/-- The option for the level of the log, which goes with every command. -/
def logLevel : Rule := { name := "log-level", accepts := some logLevels.contains }

/-- The options for composing a configuration. -/
def loadRules : List Rule :=
  [ logLevel, pathOption "context", { name := "debug", takesBack := ["no-debug"] },
    { name := "no-debug", takesBack := ["debug"] }, textOption "task" ]

/-- The grammar before the name of a command. -/
def outerGrammar : Grammar := { rules := [logLevel], hasVersion := true, stopsAtOperand := true }

/-! ## Options for composing -/

/-- The values of `NODE_ENV` that turn the debug mode on. -/
def debugEnvironments : List String := ["debug", "dev", "development"]

/-- Whether the environment asks for the debug mode. -/
def requestsDebug (env : Environment) : Bool :=
  (env "NODE_ENV").any debugEnvironments.contains || env "npm_config_dev" == some "true"

/-- The directory the project is looked for in. -/
def readContext (env : Environment) (w : Words) : Except Stop (Option String) :=
  match w.values.get? "context" with
  | some context => pure (some context)
  | none =>
      match env "ASSET_COMPOSER_CONTEXT" with
      | some "" => throw .misuse
      | context => pure context

/-- What the environment says in place of the flag for the debug mode. -/
def readDebugVariable (env : Environment) : Except Stop (Option Bool) :=
  match env "ASSET_COMPOSER_DEBUG" with
  | none => pure none
  | some "true" => pure (some true)
  | some "false" => pure (some false)
  | some _ => throw .misuse

/-- Whether the debug mode is on, if someone has a say. -/
def readDebug (env : Environment) (w : Words) : Except Stop (Option Bool) := do
  if w.flags.contains "debug" then pure (some true)
  else
    match ← readDebugVariable env with
    | some on =>
        if w.flags.contains "no-debug" then throw .misuse
        else pure (if on || requestsDebug env then some true else none)
    | none =>
        if w.flags.contains "no-debug" then pure (some false)
        else pure (if requestsDebug env then some true else none)

/-- The options for composing a configuration. -/
def readLoad (env : Environment) (w : Words) (override : Option String) :
    Except Stop ComposeArguments := do
  pure
    { context := ← readContext env w
      debug := ← readDebug env w
      task := w.values.get? "task"
      override := override }

/-! ## Commands -/

/-- The command that shows a part of the configuration. -/
def readShow (env : Environment) (words : List String) : Except Stop Command := do
  let g : Grammar := { rules := textOption "path" :: flag "layers" :: loadRules }
  let w ← g.readAll 1 words
  let load ← readLoad env w w.operands[0]?
  match w.values.get? "path", w.flags.contains "layers" with
  | some _, true => throw .misuse
  | none, true => pure ⟨.show .layers, load⟩
  | some path, false => pure ⟨.show (.node path), load⟩
  | none, false => pure ⟨.show .all, load⟩

/-- The command that looks up a module. -/
def readLocate (env : Environment) (words : List String) : Except Stop Command := do
  let g : Grammar := { rules := pathOption "context-dir" :: loadRules }
  let w ← g.readAll 2 words
  let some specifier := w.operands[0]? | throw .misuse
  let load ← readLoad env w w.operands[1]?
  pure ⟨.locate specifier (w.values.get? "context-dir"), load⟩

/-- The command that lists the entries. -/
def readEntries (env : Environment) (words : List String) : Except Stop Command := do
  let g : Grammar := { rules := flag "plain" :: loadRules }
  let w ← g.readAll 1 words
  let load ← readLoad env w w.operands[0]?
  pure ⟨.entries (w.flags.contains "plain"), load⟩

/-- The words that may follow `help`. -/
def topics : List String := ["show", "locate", "entries", "completions", "help"]

/-- The command of a command line. -/
def readCommand (env : Environment) (words : List String) : Except Stop Command := do
  let (_, rest) ← outerGrammar.read {} none words
  match rest with
  | "show" :: rest => readShow env rest
  | "locate" :: rest => readLocate env rest
  | "entries" :: rest => readEntries env rest
  | ["help"] => throw .help
  | ["help", topic] => throw (if topics.contains topic then .help else .misuse)
  | _ => throw .misuse

/-- What a configuration is composed for. -/
def ComposeArguments.toPurpose (a : ComposeArguments) (now : Timestamp) : Purpose :=
  { context := a.context.map Path.mk
    task := a.task
    debug := a.debug
    override := a.override
    arguments := programName :: a.task.toList
    now := now }

end CommandLine

end BundleConfig
