import BundleConfig.Expression.Interpreter

/-!
# Dialogues on a fixed tree

On a tree that does not change a dialogue has one *answer* and asks a list of
*questions*.  `run_ofTree` says that the answer is the value of an expression in
the scope that reads the tree.

`answer_congr` and `questions_congr` are what makes it possible to change the tree
afterwards.  Two trees that agree on the questions asked on the first lead to the
same answer and the same questions.

`Proceeds` is a dialogue that is still going on.  Some questions were answered from the
tree, all of them for paths that are known, and the rest is a dialogue again.
-/

namespace BundleConfig

namespace Expression

namespace Dialogue

variable {α : Type}

/-- What a tree has at a path, `null` when there is nothing. -/
def nodeOf (tree : Json) (path : KeyPath) : Json := (path.get? tree).getD .null

/-- The end of a dialogue on a tree. -/
def answer (tree : Json) : Dialogue α → Except ConfigError α
  | done a => .ok a
  | failed e => .error e
  | asks path next => answer tree (next (nodeOf tree path))

/-- The questions of a dialogue on a tree, first to last. -/
def questions (tree : Json) : Dialogue α → List KeyPath
  | done _ => []
  | failed _ => []
  | asks path next => path :: questions tree (next (nodeOf tree path))

/-- Trees that agree on the questions lead to the same answer. -/
theorem answer_congr {d : Dialogue α} {tree tree' : Json}
    (h : ∀ q ∈ d.questions tree, q.get? tree' = q.get? tree) : d.answer tree' = d.answer tree := by
  induction d with
  | done a => rfl
  | failed e => rfl
  | asks path next ih =>
      obtain ⟨hpath, hrest⟩ := List.forall_mem_cons.mp h
      have hnode : nodeOf tree' path = nodeOf tree path := congrArg (·.getD .null) hpath
      rw [answer, answer, hnode]
      exact ih _ hrest

/-- Trees that agree on the questions lead to the same questions. -/
theorem questions_congr {d : Dialogue α} {tree tree' : Json}
    (h : ∀ q ∈ d.questions tree, q.get? tree' = q.get? tree) :
    d.questions tree' = d.questions tree := by
  induction d with
  | done a => rfl
  | failed e => rfl
  | asks path next ih =>
      obtain ⟨hpath, hrest⟩ := List.forall_mem_cons.mp h
      have hnode : nodeOf tree' path = nodeOf tree path := congrArg (·.getD .null) hpath
      rw [questions, questions, hnode, ih _ hrest]

/-- A dialogue that reads a tree as it is ends with its answer. -/
theorem run_nodeOf (d : Dialogue α) (tree : Json) :
    d.run (fun path => (pure (nodeOf tree path) : Run Unit Json)) () =
      (d.answer tree).map (·, ()) := by
  induction d with
  | done a => rfl
  | failed e => rfl
  | asks path next ih =>
      rw [run_asks_ok rfl, answer]
      exact ih _

/-! ## One dialogue after the other -/

/-- What is made of the answer of a dialogue on a tree, nothing if it fails. -/
def after {β : Type} (d : Dialogue α) (tree : Json) (f : α → List β) : List β :=
  match d.answer tree with
  | .ok a => f a
  | .error _ => []

@[simp] theorem after_pure {β : Type} (a : α) (tree : Json) (f : α → List β) :
    (pure a : Dialogue α).after tree f = f a := rfl

@[simp] theorem after_ask {β : Type} (path : KeyPath) (tree : Json) (f : Json → List β) :
    (ask path).after tree f = f (nodeOf tree path) := rfl

@[simp] theorem after_nil {β : Type} (d : Dialogue α) (tree : Json) :
    (d.after tree fun _ => ([] : List β)) = [] := by
  unfold after
  cases d.answer tree <;> rfl

@[simp] theorem map_after {β γ : Type} (g : β → γ) (d : Dialogue α) (tree : Json) (f : α → List β) :
    (d.after tree f).map g = d.after tree fun a => (f a).map g := by
  unfold after
  cases d.answer tree <;> rfl

@[simp] theorem questions_pure (a : α) (tree : Json) :
    (pure a : Dialogue α).questions tree = [] := rfl

@[simp] theorem questions_ask (path : KeyPath) (tree : Json) :
    (ask path).questions tree = [path] := rfl

@[simp] theorem questions_ofResult (x : Except ConfigError α) (tree : Json) :
    (ofResult x).questions tree = [] := by
  cases x <;> rfl

/-- The second dialogue asks after the first one. -/
@[simp] theorem questions_bind {β : Type} (d : Dialogue α) (f : α → Dialogue β) (tree : Json) :
    (d >>= f).questions tree = d.questions tree ++ d.after tree fun a => (f a).questions tree := by
  show (d.bind f).questions tree = _
  induction d with
  | done a => rfl
  | failed e => rfl
  | asks path next ih => exact congrArg (path :: ·) (ih (nodeOf tree path))

@[simp] theorem after_bind {β γ : Type} (d : Dialogue α) (f : α → Dialogue β) (tree : Json)
    (g : β → List γ) : (d >>= f).after tree g = d.after tree fun a => (f a).after tree g := by
  show (d.bind f).after tree g = _
  induction d with
  | done a => rfl
  | failed e => rfl
  | asks path next ih => exact ih (nodeOf tree path)

@[simp] theorem after_append {β : Type} (d : Dialogue α) (tree : Json) (f g : α → List β) :
    (d.after tree fun a => f a ++ g a) = d.after tree f ++ d.after tree g := by
  unfold after
  cases d.answer tree <;> rfl

/-! ## Dialogues that go on -/

/-- Answered from the tree, questions for known paths leave the second dialogue of the
first one. -/
inductive Proceeds (known : KeyPath → Prop) (tree : Json) : Dialogue α → Dialogue α → Prop
  /-- No question was answered. -/
  | refl (d : Dialogue α) : Proceeds known tree d d
  /-- The first question was answered. -/
  | answer {path : KeyPath} {next : Json → Dialogue α} {d : Dialogue α} (isKnown : known path)
      (proceeds : Proceeds known tree (next (nodeOf tree path)) d) :
      Proceeds known tree (asks path next) d

namespace Proceeds

variable {known known' : KeyPath → Prop} {tree tree' : Json} {d d' : Dialogue α}

/-- One more question is answered. -/
theorem next {path : KeyPath} {next : Json → Dialogue α}
    (h : Proceeds known tree d (asks path next)) (hpath : known path) :
    Proceeds known tree d (next (nodeOf tree path)) := by
  generalize hasks : asks path next = e at h
  induction h with
  | refl d =>
      subst hasks
      exact .answer hpath (.refl _)
  | answer isKnown _ ih => exact .answer isKnown (ih hasks)

/-- A tree with the same nodes at the known paths leaves the same dialogue. -/
theorem congr (h : Proceeds known tree d d')
    (hknown : ∀ q, known q → known' q ∧ q.get? tree' = q.get? tree) :
    Proceeds known' tree' d d' := by
  induction h with
  | refl d => exact .refl d
  | @answer path next d isKnown _ ih =>
      obtain ⟨hpath, hget⟩ := hknown path isKnown
      have hnode : nodeOf tree' path = nodeOf tree path := congrArg (·.getD .null) hget
      exact .answer hpath (hnode ▸ ih)

/-- The questions that were answered come first, and they are known. -/
theorem questions (h : Proceeds known tree d d') :
    ∃ before, d.questions tree = before ++ d'.questions tree ∧ ∀ q ∈ before, known q := by
  induction h with
  | refl d => exact ⟨[], rfl, List.forall_mem_nil _⟩
  | @answer path next d isKnown _ ih =>
      obtain ⟨before, hquestions, hbefore⟩ := ih
      exact ⟨path :: before, congrArg (path :: ·) hquestions,
        List.forall_mem_cons.mpr ⟨isKnown, hbefore⟩⟩

theorem answer_eq (h : Proceeds known tree d d') : d.answer tree = d'.answer tree := by
  induction h with
  | refl d => rfl
  | answer _ _ ih => exact ih

end Proceeds

/-! ## Errors of dialogues -/

/-- The result is not the error of a cycle. -/
def NotCyclic (x : Except ConfigError α) : Prop := ∀ report, x ≠ .error (.cyclic report)

theorem notCyclic_ok (a : α) : NotCyclic (.ok a) := nofun

theorem NotCyclic.bind {β : Type} {x : Except ConfigError α} {f : α → Except ConfigError β}
    (h : NotCyclic x) (hf : ∀ a, NotCyclic (f a)) : NotCyclic (x >>= f) := by
  cases x with
  | ok a => exact hf a
  | error e => exact fun report heq => h report (congrArg Except.error (Except.error.inj heq))

/-- No answers make the dialogue fail with a cycle. -/
def NeverCyclic : Dialogue α → Prop
  | done _ => True
  | failed e => NotCyclic (.error e : Except ConfigError α)
  | asks _ next => ∀ answer, (next answer).NeverCyclic

theorem neverCyclic_pure (a : α) : (pure a : Dialogue α).NeverCyclic := trivial

theorem neverCyclic_ask (path : KeyPath) : (ask path).NeverCyclic := fun _ => trivial

theorem NotCyclic.ofResult {x : Except ConfigError α} (h : NotCyclic x) :
    (ofResult x).NeverCyclic := by
  cases x with
  | ok a => trivial
  | error e => exact h

theorem NeverCyclic.bind {β : Type} {d : Dialogue α} {f : α → Dialogue β} (h : d.NeverCyclic)
    (hf : ∀ a, (f a).NeverCyclic) : (d >>= f).NeverCyclic := by
  show (d.bind f).NeverCyclic
  induction d with
  | done a => exact hf a
  | failed e => exact fun report heq => h report (congrArg Except.error (Except.error.inj heq))
  | asks path next ih => exact fun answer => ih answer (h answer)

theorem NeverCyclic.proceeds {known : KeyPath → Prop} {tree : Json} {d d' : Dialogue α}
    (h : d.NeverCyclic) (hp : Proceeds known tree d d') : d'.NeverCyclic := by
  induction hp with
  | refl d => exact h
  | answer _ _ ih => exact ih (h _)

end Dialogue

/-- The value of an expression in a scope that reads a tree as it is. -/
theorem evaluate_ofTree (view : View) (tree : Json) (source : String) :
    (evaluate (Scope.ofTree view.lookup view.currentPath view.files tree) source).run () =
      ((dialogue view source).answer tree).map (·, ()) :=
  Dialogue.run_nodeOf (dialogue view source) tree

end Expression

end BundleConfig
