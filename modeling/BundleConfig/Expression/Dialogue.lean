import BundleConfig.Error
import BundleConfig.KeyPath.Basic

/-!
# Dialogues

A *dialogue* is a computation that asks for nodes of a tree.  It ends with a
result or an error, or it asks for the node at a path and goes on with the
answer.  The next question may depend on all answers so far.

A dialogue says nothing about where its answers come from.  `Dialogue.run` takes
them from a reading function, which may change a state and may fail.
-/

namespace BundleConfig

namespace Expression

/-- A computation on a state that may fail. -/
abbrev Run (σ : Type) := StateT σ (Except ConfigError)

/-- A computation that asks for nodes of a tree. -/
inductive Dialogue (α : Type)
  /-- The result. -/
  | done (a : α)
  /-- The error. -/
  | failed (e : ConfigError)
  /-- A question for the node at `path`, and how its answer goes on. -/
  | asks (path : KeyPath) (next : Json → Dialogue α)

namespace Dialogue

variable {α β σ : Type}

/-- One dialogue after the other. -/
def bind : Dialogue α → (α → Dialogue β) → Dialogue β
  | done a, f => f a
  | failed e, _ => failed e
  | asks path next, f => asks path fun answer => bind (next answer) f

instance : Monad Dialogue where
  pure := done
  bind := bind

/-- The dialogue that asks one question. -/
def ask (path : KeyPath) : Dialogue Json := asks path done

/-- The dialogue that asks nothing. -/
def ofResult : Except ConfigError α → Dialogue α
  | .ok a => done a
  | .error e => failed e

/-- A dialogue whose questions `read` answers. -/
def run (read : KeyPath → Run σ Json) : Dialogue α → Run σ α
  | done a => pure a
  | failed e => fun _ => .error e
  | asks path next => do
      let answer ← read path
      run read (next answer)

/-! ## Running -/

@[simp] theorem run_done (read : KeyPath → Run σ Json) (a : α) (s : σ) :
    run read (done a) s = .ok (a, s) := rfl

@[simp] theorem run_failed (read : KeyPath → Run σ Json) (e : ConfigError) (s : σ) :
    run read (failed e : Dialogue α) s = .error e := rfl

/-- A question that is answered. -/
theorem run_asks_ok {read : KeyPath → Run σ Json} {path : KeyPath} {next : Json → Dialogue α}
    {s s' : σ} {answer : Json} (h : read path s = .ok (answer, s')) :
    run read (asks path next) s = run read (next answer) s' := by
  show (read path s).bind _ = _
  rw [h]
  rfl

end Dialogue

end Expression

end BundleConfig
