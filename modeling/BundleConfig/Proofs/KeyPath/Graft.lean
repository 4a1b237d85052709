import BundleConfig.Proofs.KeyPath.Writing

/-!
# Grafting

A tree is *grafted* from a donor at a list of paths: the donor's node is written at
each of them, in order.  When no two of the paths are related the order does not
matter, a grafted node reads as the donor's, and a node unrelated to all of them
reads as before.
-/

namespace BundleConfig

namespace KeyPath

/-- No two paths of a list are related. -/
def Apart (nodes : List KeyPath) : Prop :=
  ∀ p ∈ nodes, ∀ q ∈ nodes, p ≠ q → ¬ Related p q

theorem Apart.of_subset {nodes others : List KeyPath} (h : Apart nodes) (hs : others ⊆ nodes) :
    Apart others :=
  fun p hp q hq => h p (hs hp) q (hs hq)

/-- The tree with the donor's nodes at the given paths. -/
def graft (donor : Json) (nodes : List KeyPath) (tree : Json) : Json :=
  nodes.foldl (fun t n => n.set ((n.get? donor).getD .null) t) tree

@[simp] theorem graft_nil (donor tree : Json) : graft donor [] tree = tree := rfl

theorem graft_cons (donor : Json) (n : KeyPath) (rest : List KeyPath) (tree : Json) :
    graft donor (n :: rest) tree =
      graft donor rest (n.set ((n.get? donor).getD .null) tree) := rfl

theorem graft_append (donor : Json) (nodes others : List KeyPath) (tree : Json) :
    graft donor (nodes ++ others) tree = graft donor others (graft donor nodes tree) :=
  List.foldl_append

/-- One more path is one more write. -/
theorem graft_concat {donor v : Json} {n : KeyPath} (hv : n.get? donor = some v)
    (nodes : List KeyPath) (tree : Json) :
    graft donor (nodes ++ [n]) tree = n.set v (graft donor nodes tree) := by
  rw [graft_append, graft_cons, graft_nil, hv, Option.getD_some]

/-- Only the donor's nodes at the paths matter. -/
theorem graft_congr {donor donor' : Json} {nodes : List KeyPath}
    (h : ∀ n ∈ nodes, n.get? donor = n.get? donor') (tree : Json) :
    graft donor nodes tree = graft donor' nodes tree := by
  induction nodes generalizing tree with
  | nil => rfl
  | cons n rest ih =>
      obtain ⟨hn, hrest⟩ := List.forall_mem_cons.mp h
      rw [graft_cons, graft_cons, hn]
      exact ih hrest _

/-- The order of unrelated paths does not matter. -/
theorem graft_perm {donor : Json} {nodes others : List KeyPath} (hp : nodes.Perm others)
    (ha : Apart nodes) (tree : Json) : graft donor nodes tree = graft donor others tree := by
  apply hp.foldl_eq'
  intro p hp q hq t
  by_cases h : p = q
  · rw [h]
  · exact set_set_comm (ha p hp q hq h) _ _ t

/-- A node that is unrelated to all paths reads as before. -/
theorem get?_graft_of_unrelated {donor : Json} {nodes : List KeyPath} {q : KeyPath}
    (h : ∀ n ∈ nodes, ¬ Related n q) (tree : Json) :
    q.get? (graft donor nodes tree) = q.get? tree := by
  induction nodes generalizing tree with
  | nil => rfl
  | cons n rest ih =>
      obtain ⟨hn, hrest⟩ := List.forall_mem_cons.mp h
      rw [graft_cons, ih hrest, get?_set_of_unrelated hn]

end KeyPath

end BundleConfig
