import BundleConfig.Proofs.Expression.Dialogue

/-!
# What an expression reads

A *chain* is a sequence of accesses that starts at `self`.  An expression reads a chain
as a whole, when its value is needed and no further access follows.  So the chain of
`self.a.b` is read at `a.b`, and its beginning `self.a` is not read.

There is one exception.  The access `length` asks what the chain before it leads to, even
where that is a mapping and `length` one of its keys.  `Read` keeps the two apart:
`Read.accessed` is the chain with all accesses so far, and `Read.asked` is what is asked
for.  They differ for `length` only.

`readsOf` goes through an expression in the order in which it is computed, and
`questions_dialogue` says that its reads are the questions of the expression.
-/

namespace BundleConfig

namespace Expression

/-- A read of the tree. -/
inductive Read
  /-- The value of a chain that no access follows. -/
  | chain (path : KeyPath)
  /-- What a chain leads to before the access `length`. -/
  | lengthOf (path : KeyPath)

/-- The path that is asked for. -/
def Read.asked : Read → KeyPath
  | chain path => path
  | lengthOf path => path

/-- The path of the accesses so far. -/
def Read.accessed : Read → KeyPath
  | chain path => path
  | lengthOf path => path.child (.key "length")

/-- The read for the value of an operand. -/
def readsOfValue : Operand → List Read
  | .reference path => [.chain path]
  | _ => []

/-- The read for a step from an operand. -/
def readsOfAccess (object : Operand) (step : Segment) : List Read :=
  match object with
  | .reference path => if step = .key "length" then [.lengthOf path] else []
  | _ => []

/-- The value of an expression. -/
def valueOf (view : View) (source : String) (e : Expr) : Dialogue Json := do
  toValue source (← operandOf view source e)

mutual

/-- What is read of a tree to know what an expression stands for, first to last. -/
def readsOf (view : View) (source : String) (tree : Json) : Expr → List Read
  | .literal _ => []
  | .identifier _ => []
  | .array items => readsOfAll view source tree items
  | .member object name =>
      readsOf view source tree object ++
        (operandOf view source object).after tree (readsOfAccess · (.key name))
  | .index object position =>
      readsOf view source tree object ++ (operandOf view source object).after tree fun o =>
        readsOf view source tree position ++
          (operandOf view source position).after tree readsOfValue ++
            (valueOf view source position).after tree fun v =>
              (lift source (stepOf v)).after tree (readsOfAccess o)
  | .call callee arguments =>
      readsOf view source tree callee ++ (operandOf view source callee).after tree fun
        | .function _ => readsOfAll view source tree arguments
        | _ => []
  | .unary _ operand =>
      readsOf view source tree operand ++ (operandOf view source operand).after tree readsOfValue
  | .binary _ left right =>
      readsOf view source tree left ++ (operandOf view source left).after tree readsOfValue ++
        (valueOf view source left).after tree fun _ =>
          readsOf view source tree right ++ (operandOf view source right).after tree readsOfValue
  | .logical operator left right =>
      readsOf view source tree left ++ (operandOf view source left).after tree readsOfValue ++
        (valueOf view source left).after tree fun v =>
          if isTruthy v == (operator == .and) then
            readsOf view source tree right ++ (operandOf view source right).after tree readsOfValue
          else []
  | .conditional condition consequent alternative =>
      readsOf view source tree condition ++
        (operandOf view source condition).after tree readsOfValue ++
          (valueOf view source condition).after tree fun v =>
            if isTruthy v then readsOf view source tree consequent
            else readsOf view source tree alternative
termination_by structural e => e

/-- What is read of a tree for the values of expressions, first to last. -/
def readsOfAll (view : View) (source : String) (tree : Json) : List Expr → List Read
  | [] => []
  | e :: rest =>
      readsOf view source tree e ++ (operandOf view source e).after tree readsOfValue ++
        (valueOf view source e).after tree fun _ => readsOfAll view source tree rest
termination_by structural es => es

end

/-- What an expression reads of a tree, first to last. -/
def readsOfSource (view : View) (source : String) (tree : Json) : List Read :=
  (lift source (Expr.ofText source)).after tree fun e =>
    readsOf view source tree e ++ (operandOf view source e).after tree readsOfValue

variable {view : View} {source : String} {tree : Json}

/-! ## Reads are questions -/

@[simp] theorem questions_lift {α : Type} (step : Except ExpressionProblem α) :
    (lift source step).questions tree = [] := Dialogue.questions_ofResult _ tree

@[simp] theorem questions_toValue (o : Operand) :
    (toValue source o).questions tree = (readsOfValue o).map Read.asked := by
  cases o <;> rfl

@[simp] theorem questions_ofIdentifier (name : String) :
    (ofIdentifier view source name).questions tree = [] := by
  unfold ofIdentifier
  repeat' split
  all_goals rfl

@[simp] theorem questions_access (o : Operand) (step : Segment) :
    (access source o step).questions tree = (readsOfAccess o step).map Read.asked := by
  cases o with
  | value v => simp [access, readsOfAccess]
  | reference path =>
      by_cases hstep : step = .key "length"
      · rw [access, if_pos hstep, Dialogue.questions_bind, Dialogue.after_ask, readsOfAccess,
          if_pos hstep]
        split
        · simp [Read.asked]
        · rfl
      · rw [access, if_neg hstep, readsOfAccess, if_neg hstep]
        rfl
  | group g =>
      cases step with
      | key name =>
          unfold access
          dsimp only
          split <;> rfl
      | index position => rfl
  | function f => rfl

mutual

/-- To know what an expression stands for, exactly its reads are asked. -/
theorem questions_operandOf : ∀ e : Expr,
    (operandOf view source e).questions tree = (readsOf view source tree e).map Read.asked
  | .literal v => rfl
  | .identifier name => questions_ofIdentifier name
  | .array items => by
      simp [operandOf, readsOf, questions_valuesOf items]
  | .member object name => by
      simp [operandOf, readsOf, questions_operandOf object]
  | .index object position => by
      simp [operandOf, readsOf, valueOf, questions_operandOf object, questions_operandOf position]
  | .call callee arguments => by
      rw [operandOf, readsOf, Dialogue.questions_bind, questions_operandOf callee, List.map_append,
        Dialogue.map_after]
      congr 2
      funext o
      cases o with
      | function f => simp [questions_valuesOf arguments]
      | _ => rfl
  | .unary operator operand => by
      simp [operandOf, readsOf, questions_operandOf operand]
  | .binary operator left right => by
      simp [operandOf, readsOf, valueOf, questions_operandOf left, questions_operandOf right]
  | .logical operator left right => by
      simp [operandOf, readsOf, valueOf, questions_operandOf left, questions_operandOf right,
        apply_ite (Dialogue.questions tree), apply_ite (List.map Read.asked)]
  | .conditional condition consequent alternative => by
      simp [operandOf, readsOf, valueOf, questions_operandOf condition,
        questions_operandOf consequent, questions_operandOf alternative,
        apply_ite (Dialogue.questions tree), apply_ite (List.map Read.asked)]
termination_by structural e => e

theorem questions_valuesOf : ∀ es : List Expr,
    (valuesOf view source es).questions tree = (readsOfAll view source tree es).map Read.asked
  | [] => rfl
  | e :: rest => by
      simp [valuesOf, readsOfAll, valueOf, questions_operandOf e, questions_valuesOf rest]
termination_by structural es => es

end

/-- The questions of an expression are its reads, in their order. -/
theorem questions_dialogue :
    (dialogue view source).questions tree = (readsOfSource view source tree).map Read.asked := by
  simp [dialogue, readsOfSource, questions_operandOf]

/-- An access to a chain reads the chain with that access, if anything. -/
theorem accessed_of_mem_access {path : KeyPath} {step : Segment} {r : Read}
    (h : r ∈ readsOfAccess (.reference path) step ++
      (access source (.reference path) step).after tree readsOfValue) :
    r.accessed = path.child step := by
  by_cases hstep : step = .key "length"
  · rcases List.mem_append.mp h with h | h
    · rw [readsOfAccess, if_pos hstep, List.mem_singleton] at h
      rw [h, hstep]
      rfl
    · rw [access, if_pos hstep, Dialogue.after_bind, Dialogue.after_ask] at h
      split at h
      · simp [Dialogue.after_bind, readsOfValue] at h
      · obtain rfl := List.mem_singleton.mp h
        rfl
  · rw [readsOfAccess, if_neg hstep, access, if_neg hstep] at h
    obtain rfl := List.mem_singleton.mp h
    rfl

/-! ## Errors of expressions -/

open Dialogue (NotCyclic NeverCyclic neverCyclic_pure neverCyclic_ask notCyclic_ok)

theorem notCyclic_mapError {α : Type} (x : Except ExpressionProblem α) :
    NotCyclic (x.mapError (.expression source)) := by
  cases x <;> nofun

theorem notCyclic_replaceIn (text target value : String) :
    NotCyclic (Builtin.replaceIn text target value) := by
  unfold Builtin.replaceIn
  split
  · cases Pattern.ofText _ <;> nofun
  · exact notCyclic_ok _

/-- No function fails with a cycle. -/
theorem notCyclic_call (env : Builtin.Environment) (f : Builtin) (arguments : List Json) :
    NotCyclic (Builtin.call env f arguments) := by
  have htexts : ∀ least, NotCyclic (env.lift (Builtin.strings f.name least arguments)) :=
    fun least => notCyclic_mapError _
  unfold Builtin.call
  cases f with
  | pathResolve | pathJoin | pathDirname | pathBasename | fsIsFile | fsIsDirectory =>
      exact (htexts _).bind fun _ => notCyclic_ok _
  | fsRead =>
      refine (htexts _).bind fun _ => ?_
      dsimp only
      split <;> nofun
  | require =>
      refine (htexts _).bind fun _ => ?_
      dsimp only
      split
      · nofun
      · split <;> nofun
  | stringReplace =>
      refine (htexts _).bind fun parts => ?_
      split
      · exact (notCyclic_replaceIn _ _ _).bind fun _ => notCyclic_ok _
      · nofun
  | arrayIncludes =>
      dsimp only
      split <;> nofun

theorem neverCyclic_fail {α : Type} (problem : ExpressionProblem) :
    (fail source problem : Dialogue α).NeverCyclic := nofun

theorem neverCyclic_lift {α : Type} (step : Except ExpressionProblem α) :
    (lift source step).NeverCyclic := (notCyclic_mapError step).ofResult

theorem neverCyclic_toValue (o : Operand) : (toValue source o).NeverCyclic := by
  cases o with
  | value v => exact neverCyclic_pure v
  | reference path => exact neverCyclic_ask path
  | group g => exact neverCyclic_fail _
  | function f => exact neverCyclic_fail _

theorem neverCyclic_ofIdentifier (name : String) :
    (ofIdentifier view source name).NeverCyclic := by
  unfold ofIdentifier
  repeat' split
  all_goals first | exact neverCyclic_pure _ | exact neverCyclic_fail _

theorem neverCyclic_access (o : Operand) (step : Segment) :
    (access source o step).NeverCyclic := by
  cases o with
  | value v => exact (neverCyclic_lift _).bind fun _ => neverCyclic_pure _
  | reference path =>
      unfold access
      dsimp only
      split
      · refine (neverCyclic_ask path).bind fun v => ?_
        split
        · exact (neverCyclic_lift _).bind fun _ => neverCyclic_pure _
        · exact neverCyclic_pure _
      · exact neverCyclic_pure _
  | group g =>
      cases step with
      | key name =>
          unfold access
          dsimp only
          split
          · exact neverCyclic_pure _
          · exact neverCyclic_fail _
      | index position => exact neverCyclic_fail _
  | function f => exact neverCyclic_fail _

mutual

theorem neverCyclic_operandOf : ∀ e : Expr, (operandOf view source e).NeverCyclic
  | .literal v => neverCyclic_pure _
  | .identifier name => neverCyclic_ofIdentifier name
  | .array items => (neverCyclic_valuesOf items).bind fun _ => neverCyclic_pure _
  | .member object name =>
      (neverCyclic_operandOf object).bind fun o => neverCyclic_access o _
  | .index object position =>
      (neverCyclic_operandOf object).bind fun o =>
        (neverCyclic_operandOf position).bind fun p =>
          (neverCyclic_toValue p).bind fun v =>
            (neverCyclic_lift (stepOf v)).bind fun step => neverCyclic_access o step
  | .call callee arguments => by
      refine (neverCyclic_operandOf callee).bind fun o => ?_
      cases o with
      | function f =>
          exact (neverCyclic_valuesOf arguments).bind fun values =>
            (notCyclic_call _ f values).ofResult.bind fun _ => neverCyclic_pure _
      | value | reference | group => exact neverCyclic_fail _
  | .unary operator operand =>
      (neverCyclic_operandOf operand).bind fun o =>
        (neverCyclic_toValue o).bind fun _ =>
          (neverCyclic_lift _).bind fun _ => neverCyclic_pure _
  | .binary operator left right =>
      (neverCyclic_operandOf left).bind fun l =>
        (neverCyclic_toValue l).bind fun _ =>
          (neverCyclic_operandOf right).bind fun r =>
            (neverCyclic_toValue r).bind fun _ =>
              (neverCyclic_lift _).bind fun _ => neverCyclic_pure _
  | .logical operator left right => by
      refine (neverCyclic_operandOf left).bind fun l => (neverCyclic_toValue l).bind fun v => ?_
      split
      · exact (neverCyclic_operandOf right).bind fun r =>
          (neverCyclic_toValue r).bind fun _ => neverCyclic_pure _
      · exact neverCyclic_pure _
  | .conditional condition consequent alternative => by
      refine (neverCyclic_operandOf condition).bind fun o =>
        (neverCyclic_toValue o).bind fun v => ?_
      split
      · exact neverCyclic_operandOf consequent
      · exact neverCyclic_operandOf alternative
termination_by structural e => e

theorem neverCyclic_valuesOf : ∀ es : List Expr, (valuesOf view source es).NeverCyclic
  | [] => neverCyclic_pure _
  | e :: rest =>
      (neverCyclic_operandOf e).bind fun o =>
        (neverCyclic_toValue o).bind fun _ =>
          (neverCyclic_valuesOf rest).bind fun _ => neverCyclic_pure _
termination_by structural es => es

end

/-- An expression does not fail with a cycle, whatever it is answered. -/
theorem neverCyclic_dialogue : (dialogue view source).NeverCyclic :=
  (neverCyclic_lift (Expr.ofText source)).bind fun e =>
    (neverCyclic_operandOf e).bind fun o => neverCyclic_toValue o

end Expression

end BundleConfig
