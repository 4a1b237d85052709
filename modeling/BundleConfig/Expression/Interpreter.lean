import BundleConfig.Expression.Builtin
import BundleConfig.Expression.Dialogue
import BundleConfig.Expression.Parser

/-!
# Computing expressions

An expression is computed in a *scope*.  The scope knows the variables, and it
reads the tree that the name `self` stands for.  Reading may change the scope's
own state, since a node that is read may have to be computed first.

What an expression computes is a dialogue: it asks for the nodes it needs, and
only its answers come from the scope's state.  Everything else that an expression
sees is fixed and makes the *view*.

An access to `self` stays a *reference*, a key path, until its value is needed.
So `self.a.b` reads the node at `a.b` and none on the way.  The one access that
reads at once is `length`, which is the length of a referenced array or string
and else a key like any other.

Operands are computed from left to right.  `&&`, `||` and `?:` compute only what
they need.
-/

namespace BundleConfig

namespace Expression

/-- What is fixed while an expression is computed. -/
structure View where
  /-- The value of a variable. -/
  lookup : String → Option Json
  /-- The path relative paths are seen from. -/
  currentPath : Path
  /-- The files. -/
  files : FileSystem

/-- What an expression can see. -/
structure Scope (σ : Type) extends View where
  /-- The value of the tree's node at a path, `null` when there is none. -/
  readSelf : KeyPath → Run σ Json

/-- What a sub-expression stands for. -/
inductive Operand
  /-- A value. -/
  | value (v : Json)
  /-- A node of the tree, not yet read. -/
  | reference (path : KeyPath)
  /-- A group of functions. -/
  | group (g : Group)
  /-- A function. -/
  | function (f : Builtin)

variable {σ : Type}

/-- A scope that reads a tree as it is. -/
def Scope.ofTree (lookup : String → Option Json) (currentPath : Path) (files : FileSystem)
    (tree : Json) : Scope Unit where
  lookup := lookup
  currentPath := currentPath
  files := files
  readSelf := fun path => pure ((path.get? tree).getD .null)

/-- The name of the tree. -/
def selfName : String := "self"

/-- What the functions see of a view. -/
def View.environment (view : View) (source : String) : Builtin.Environment :=
  ⟨view.files, view.currentPath, source⟩

/-- Fails with a problem. -/
def fail {α : Type} (source : String) (problem : ExpressionProblem) : Dialogue α :=
  .failed (.expression source problem)

/-- The result of a step that may have a problem. -/
def lift {α : Type} (source : String) (step : Except ExpressionProblem α) : Dialogue α :=
  .ofResult (step.mapError (.expression source))

/-- The value of an operand. -/
def toValue (source : String) : Operand → Dialogue Json
  | .value v => pure v
  | .reference path => .ask path
  | .group g => fail source (.notValue g.name)
  | .function f => fail source (.notValue f.name)

/-- What a name stands for. -/
def ofIdentifier (view : View) (source name : String) : Dialogue Operand :=
  if name = selfName then pure (.reference [])
  else
    match Group.ofName? name with
    | some g => pure (.group g)
    | none =>
        match Builtin.ofName? name with
        | some f => pure (.function f)
        | none =>
            match view.lookup name with
            | some v => pure (.value v)
            | none => fail source (.unknownIdentifier name)

/-- What a step leads to from an operand. -/
def access (source : String) (object : Operand) (step : Segment) : Dialogue Operand :=
  match object with
  | .reference path =>
      if step = .key "length" then do
        let v ← .ask path
        if v.isArray || v.isString then pure (.value (← lift source (property v step)))
        else pure (.reference (path.child step))
      else pure (.reference (path.child step))
  | .group g =>
      match step with
      | .key name =>
          let full := g.name ++ "." ++ name
          match Builtin.ofName? full with
          | some f => pure (.function f)
          | none => fail source (.unknownFunction full)
      | .index _ => fail source (.notIndexable g.name)
  | .function f => fail source (.noProperties f.name)
  | .value v => do pure (.value (← lift source (property v step)))

/-- The step a position value asks for. -/
def stepOf (v : Json) : Except ExpressionProblem Segment :=
  match v with
  | .string name => .ok (.key name)
  | .number n =>
      match n.index? with
      | some position => .ok (.index position)
      | none => .error (.invalidIndex v)
  | v => .error (.invalidIndex v)

mutual

/-- What an expression stands for. -/
def operandOf (view : View) (source : String) : Expr → Dialogue Operand
  | .literal v => pure (.value v)
  | .identifier name => ofIdentifier view source name
  | .array items => do pure (.value (.array (← valuesOf view source items)))
  | .member object name => do
      let object ← operandOf view source object
      access source object (.key name)
  | .index object position => do
      let object ← operandOf view source object
      let position ← operandOf view source position
      let position ← toValue source position
      let step ← lift source (stepOf position)
      access source object step
  | .call callee arguments => do
      match ← operandOf view source callee with
      | .function f => do
          let arguments ← valuesOf view source arguments
          let v ← .ofResult (Builtin.call (view.environment source) f arguments)
          pure (.value v)
      | _ => fail source .notCallable
  | .unary operator operand => do
      let operand ← operandOf view source operand
      let v ← toValue source operand
      pure (.value (← lift source (applyUnary operator v)))
  | .binary operator left right => do
      let left ← operandOf view source left
      let left ← toValue source left
      let right ← operandOf view source right
      let right ← toValue source right
      pure (.value (← lift source (applyBinary operator left right)))
  | .logical operator left right => do
      let left ← operandOf view source left
      let left ← toValue source left
      if isTruthy left == (operator == .and) then do
        let right ← operandOf view source right
        pure (.value (← toValue source right))
      else pure (.value left)
  | .conditional condition consequent alternative => do
      let condition ← operandOf view source condition
      let condition ← toValue source condition
      if isTruthy condition then operandOf view source consequent
      else operandOf view source alternative
termination_by structural e => e

/-- The values of expressions, from left to right. -/
def valuesOf (view : View) (source : String) : List Expr → Dialogue (List Json)
  | [] => pure []
  | e :: rest => do
      let operand ← operandOf view source e
      let v ← toValue source operand
      let others ← valuesOf view source rest
      pure (v :: others)
termination_by structural es => es

end

/-- The dialogue an expression is computed in. -/
def dialogue (view : View) (source : String) : Dialogue Json := do
  let e ← lift source (Expr.ofText source)
  let operand ← operandOf view source e
  toValue source operand

/-- The value of an expression. -/
def evaluate (scope : Scope σ) (source : String) : Run σ Json :=
  (dialogue scope.toView source).run scope.readSelf

end Expression

end BundleConfig
