import BundleConfig.Expression.Interpreter
import BundleConfig.Timestamp

/-!
# Evaluating trees

An *expression node* is a mapping with a string under `__evaluate__`.
`Evaluation.evaluate` replaces every expression node of a tree by the value of
its expression.  It takes them in document order.  What stands below an
expression node is part of it.

An expression reads the tree through `self`.  Reading a path first evaluates
every expression node at the path, above it or below it.  Reading a node whose
own evaluation is still running is a cycle, and the error names the nodes of the
cycle.  A node is evaluated once, and its value is final: a value that looks like
an expression node is data.

*Depth.*  `settle` counts its first argument down with every nested
evaluation.  The running nodes differ from each other and are all among the
collected ones, so one more than their number suffices.
-/

namespace BundleConfig

namespace Evaluation

/-- The key of an expression node. -/
def expressionKey : String := "__evaluate__"

/-- What is fixed while a tree is evaluated. -/
structure Context where
  /-- The path relative paths are seen from. -/
  currentPath : Path
  /-- The current time. -/
  now : Timestamp
  /-- Whether the debug mode is on. -/
  debug : Bool
  /-- The requested task, empty if there is none. -/
  task : String
  /-- Further values by name. -/
  bindings : Table Json
  /-- The files. -/
  files : FileSystem

/-- The value of a variable.  Five names are taken. -/
def Context.lookup (c : Context) (name : String) : Option Json :=
  match name with
  | "currentPath" => some (.string c.currentPath.text)
  | "now" => some (.string c.now.toText)
  | "nowUTCTimestamp" => some (.number (.integer c.now.seconds))
  | "debug" => some (.bool c.debug)
  | "task" => some (.string c.task)
  | _ => c.bindings.get? name

/-- What the expressions of a tree see apart from the tree. -/
def Context.view (c : Context) : Expression.View where
  lookup := c.lookup
  currentPath := c.currentPath
  files := c.files

/-! ## Expression nodes -/

/-- The expression of a list of entries that is an expression node. -/
def sourceOfEntries? (entries : List (String × Json)) : Option String :=
  (Table.get? entries expressionKey).bind Json.text?

/-- The expression of an expression node. -/
def source? (v : Json) : Option String := v.entries?.bind sourceOfEntries?

mutual

/-- The paths of the expression nodes of a tree at `path`, in document order. -/
def collect (path : KeyPath) : Json → List KeyPath
  | .object entries =>
      if (sourceOfEntries? entries).isSome then [path] else collectEntries path entries
  | .array items => collectItems path 0 items
  | _ => []
termination_by structural v => v

/-- The paths of the expression nodes in the items of an array at `path`. -/
def collectItems (path : KeyPath) (position : Nat) : List Json → List KeyPath
  | [] => []
  | v :: rest =>
      collect (path.child (.index position)) v ++ collectItems path (position + 1) rest
termination_by structural items => items

/-- The paths of the expression nodes in the entries of a mapping at `path`. -/
def collectEntries (path : KeyPath) : List (String × Json) → List KeyPath
  | [] => []
  | (key, v) :: rest => collect (path.child (.key key)) v ++ collectEntries path rest
termination_by structural entries => entries

end

/-! ## Evaluation on demand -/

/-- The tree while its nodes are evaluated. -/
structure State where
  /-- The tree so far. -/
  tree : Json
  /-- The nodes that have their values, oldest first. -/
  finished : List KeyPath
  /-- The nodes whose evaluation is running, outermost first. -/
  running : List KeyPath

/-- The expression nodes that reading a path depends on. -/
def related (pending : List KeyPath) (path : KeyPath) : List KeyPath :=
  pending.filter fun node => path.startsWith node || node.startsWith path

/-- Reads a path after the nodes it depends on were evaluated by `demand`. -/
def readSelf (demand : KeyPath → Expression.Run State Unit) (pending : List KeyPath)
    (path : KeyPath) : Expression.Run State Json := do
  (related pending path).forM demand
  let s ← get
  pure ((path.get? s.tree).getD .null)

/-- The scope of the expressions of a tree. -/
def scope (c : Context) (demand : KeyPath → Expression.Run State Unit)
    (pending : List KeyPath) : Expression.Scope State where
  toView := c.view
  readSelf := readSelf demand pending

/-- The running nodes from `path` on, and `path` again. -/
def cycleAt (running : List KeyPath) (path : KeyPath) : List KeyPath :=
  running.dropWhile (· != path) ++ [path]

/-- The state in which the evaluation of a node has begun. -/
def State.begin (s : State) (path : KeyPath) : State :=
  { s with running := s.running ++ [path] }

/-- The state in which a node has got its value. -/
def State.finish (s : State) (path : KeyPath) (v : Json) : State :=
  { tree := path.set v s.tree
    finished := s.finished ++ [path]
    running := s.running.dropLast }

/-- Evaluates the node at a path, unless it has its value. -/
def settle (c : Context) (pending : List KeyPath) :
    (fuel : Nat) → KeyPath → Expression.Run State Unit
  | 0, path => fun s => .error (.cyclic (.reading (cycleAt s.running path)))
  | fuel + 1, path => do
      let s ← get
      if s.finished.contains path then pure ()
      else if s.running.contains path then
        throw (.cyclic (.reading (cycleAt s.running path)))
      else
        match (path.get? s.tree).bind source? with
        | none => pure ()
        | some source => do
            modify (·.begin path)
            let v ← Expression.evaluate (scope c (settle c pending fuel) pending) source
            modify (·.finish path v)

/-- The tree with the nodes at the given paths evaluated in their order, of which
`pending` are all. -/
def settleInOrder (c : Context) (pending order : List KeyPath) (tree : Json) :
    Except ConfigError Json := do
  let ((), s) ← (order.forM (settle c pending (pending.length + 1))).run ⟨tree, [], []⟩
  pure s.tree

/-- The tree with every expression node replaced by its value. -/
def evaluate (c : Context) (tree : Json) : Except ConfigError Json :=
  let pending := collect [] tree
  settleInOrder c pending pending tree

end Evaluation

end BundleConfig
