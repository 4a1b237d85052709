import BundleConfig.Path.Basic
import BundleConfig.Timestamp

/-!
# Options of a composition

What a configuration is composed for.  The arguments of the program may stand in
for missing options: the second one is the task, and the last one of more than
two is the override.
-/

namespace BundleConfig

/-- What a configuration is composed for. -/
structure Purpose where
  /-- Where the project is looked for, instead of the working directory. -/
  context : Option Path := none
  /-- The requested task. -/
  task : Option String := none
  /-- Whether the debug mode is on, when the project has no say. -/
  debug : Option Bool := none
  /-- The text of an override. -/
  override : Option String := none
  /-- The arguments of the program. -/
  arguments : List String := []
  /-- The current time. -/
  now : Timestamp

namespace Purpose

/-- Whether two options are the same up to the spelling of the context. -/
def same (a b : Purpose) : Bool :=
  a.context.map Path.components == b.context.map Path.components
    && a.task == b.task && a.debug == b.debug && a.override == b.override
    && a.arguments == b.arguments && a.now == b.now

/-- The requested task, perhaps by the arguments. -/
def taskFrom (o : Purpose) (arguments : List String) : Option String :=
  o.task.orElse fun _ => arguments[1]?

/-- The text of the override, perhaps by the arguments. -/
def overrideFrom (o : Purpose) (arguments : List String) : Option String :=
  o.override.orElse fun _ => if arguments.length > 2 then arguments.getLast? else none

end Purpose

end BundleConfig
