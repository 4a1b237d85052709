import BundleConfig.Proofs.Evaluation.Soundness
import Mathlib

/-!
# The evaluated tree is a fixpoint

After an evaluation every node that was collected has the value its expression has
on the evaluated tree itself, read as it is.  All that is unrelated to the collected
nodes is as before.
-/

namespace BundleConfig

namespace Evaluation

variable {c : Context} {tree result : Json}

/-- On the evaluated tree each expression has the value that stands at its node, and
nodes unrelated to all expression nodes are unchanged. -/
theorem evaluate_fixpoint (hd : tree.Distinct) (h : evaluate c tree = .ok result) :
    (∀ p ∈ collect [] tree, ∃ source v,
      (p.get? tree).bind source? = some source ∧ p.get? result = some v ∧
        (Expression.evaluate (.ofTree c.lookup c.currentPath c.files result) source).run () =
          .ok (v, ())) ∧
      ∀ q : KeyPath, (∀ p ∈ collect [] tree, ¬ KeyPath.Related p q) →
        q.get? result = q.get? tree := by
  have hp : Nodes tree (collect [] tree) := nodes_collect hd
  obtain ⟨done, hsolved, hall⟩ := solved_of_settleInOrder hp (List.Subset.refl _) h
  constructor
  · intro p hmem
    obtain ⟨before, after, hdone⟩ := List.append_of_mem (hall hmem)
    obtain ⟨source, v, hsource, hv, hanswer, -⟩ := hsolved.holds hp.apart hdone
    refine ⟨source, v, hsource, hv, ?_⟩
    have hvalue := Expression.evaluate_ofTree c.view result source
    rw [hanswer] at hvalue
    exact hvalue
  · intro q hq
    exact hsolved.get?_of_unrelated fun p hmem => hq p (hsolved.subset hmem)

/-- A tree with a node that reads a later one. -/
def forwardTree : Json :=
  .object [("port", .null),
    ("a", .object [("__evaluate__", .string "self.b")]),
    ("b", .object [("__evaluate__", .string "hook")])]

/-- A context with a variable whose value looks like an expression node. -/
def hookContext : Context :=
  ⟨⟨"/project"⟩, ⟨0⟩, true, "serve",
    [("hook", .object [("__evaluate__", .string "debug")])], ⟨[], ⟨"/project"⟩⟩⟩

/-- The tree that `forwardTree` is evaluated to. -/
def forwardResult : Json :=
  .object [("port", .null),
    ("a", .object [("__evaluate__", .string "debug")]),
    ("b", .object [("__evaluate__", .string "debug")])]

/-- Values that look like expression nodes are read as they are. -/
theorem evaluate_forwardTree :
    forwardTree.Distinct ∧ evaluate hookContext forwardTree = .ok forwardResult ∧
      (∀ p ∈ collect [] forwardTree, ∃ source v,
        (p.get? forwardTree).bind source? = some source ∧ p.get? forwardResult = some v ∧
          (Expression.evaluate (.ofTree hookContext.lookup hookContext.currentPath
            hookContext.files forwardResult) source).run () = .ok (v, ())) ∧
      ∀ q : KeyPath, (∀ p ∈ collect [] forwardTree, ¬ KeyPath.Related p q) →
        q.get? forwardResult = q.get? forwardTree := by
  have hd : forwardTree.Distinct := by decide
  have h : evaluate hookContext forwardTree = .ok forwardResult := by cbv
  exact ⟨hd, h, evaluate_fixpoint hd h⟩

end Evaluation

end BundleConfig
