import BundleConfig.Proofs.Evaluation.Soundness
import Mathlib

/-!
# The order of evaluation

Whether a tree can be evaluated, and to what, does not depend on the order in which
its nodes are visited.

If one order succeeds there is a solution for all nodes, and its list puts every
node behind those that it depends on.  Another order meets the nodes nested in
another way.  Still the demands of the first nodes of the list succeed as long as
none of them is running, since what a node demands stands further in front.  So no
running node is ever met again, and the number of those nodes bounds the depth
(`succeeds_settle`).  Both orders end with solutions for all nodes, which are the
same.
-/

namespace BundleConfig

namespace Evaluation

open Expression (dialogue Dialogue Run)

section

variable {c : Context} {original full : Json} {pending all : List KeyPath}

/-! ## Demands that succeed -/

/-- The demands of the given nodes succeed while none of them is running. -/
def Succeeds (c : Context) (original : Json) (pending : List KeyPath)
    (demand : KeyPath → Run State Unit) (nodes : List KeyPath) : Prop :=
  ∀ n ∈ nodes, ∀ s : State, s.Solves c original pending → (∀ r ∈ s.running, r ∉ nodes) →
    ∃ t, demand n s = .ok ((), t)

variable {demand : KeyPath → Run State Unit} {nodes : List KeyPath}

/-- Demands that succeed one by one succeed one after the other. -/
theorem Succeeds.forM (hsucceeds : Succeeds c original pending demand nodes)
    (hsound : Sound c original pending demand) {order : List KeyPath} {s : State}
    (hn : order ⊆ nodes) (hp : order ⊆ pending) (hs : s.Solves c original pending)
    (hr : ∀ r ∈ s.running, r ∉ nodes) : ∃ t, order.forM demand s = .ok ((), t) := by
  induction order generalizing s with
  | nil => exact ⟨s, rfl⟩
  | cons n rest ih =>
      obtain ⟨hmem, hrest⟩ := List.cons_subset.mp hn
      obtain ⟨hpends, hprest⟩ := List.cons_subset.mp hp
      obtain ⟨u, hu⟩ := hsucceeds n hmem s hs hr
      obtain ⟨hsolves, hadvance, -⟩ := hsound n s u hpends hs hu
      obtain ⟨t, ht⟩ := ih hrest hprest hsolves (hadvance.running ▸ hr)
      exact ⟨t, stateT_bind_eq_ok.mpr ⟨(), u, hu, ht⟩⟩

/-- An expression ends if it has a value on the solution, and all that it reads there
is settled by nodes whose demands succeed. -/
theorem Succeeds.run {α : Type} (hsucceeds : Succeeds c original pending demand nodes)
    (hsound : Sound c original pending demand) (hp : Nodes original pending)
    (hfull : Solved c original pending all full) (hall : pending ⊆ all) {d : Dialogue α} {a : α}
    (hanswer : d.answer full = .ok a)
    (hsettled : ∀ q ∈ d.questions full, Settled pending nodes q) {s : State}
    (hs : s.Solves c original pending) (hr : ∀ r ∈ s.running, r ∉ nodes) :
    ∃ t, d.run (readSelf demand pending) s = .ok (a, t) := by
  induction d generalizing s with
  | done b =>
      cases hanswer
      exact ⟨s, rfl⟩
  | failed e => cases hanswer
  | asks path next ih =>
      obtain ⟨hpath, hrest⟩ := List.forall_mem_cons.mp hsettled
      have hpends : related pending path ⊆ pending := fun n hn => (mem_related.mp hn).1
      obtain ⟨u, hu⟩ := hsucceeds.forM hsound (fun n hn => hpath n hn) hpends hs hr
      obtain ⟨hsolves, hadvance, hsub⟩ := hsound.forM hpends hs hu
      have hlisted : u.finished ⊆ all := List.Subset.trans hsolves.subset hall
      have hread : path.get? u.tree = path.get? full :=
        Solved.get?_of_settled hsolves hfull hp.apart hlisted fun n hn => hsub hn
      have hnode : Dialogue.nodeOf u.tree path = Dialogue.nodeOf full path :=
        congrArg (·.getD .null) hread
      obtain ⟨t, ht⟩ := ih (Dialogue.nodeOf u.tree path) (hnode ▸ hanswer) (hnode ▸ hrest)
        hsolves (hadvance.running ▸ hr)
      exact ⟨t, stateT_bind_eq_ok.mpr ⟨_, u, stateT_bind_eq_ok.mpr ⟨(), u, hu, rfl⟩, ht⟩⟩

/-! ## Nodes that succeed -/

/-- The first nodes of a solution for all nodes succeed at the depth of their number. -/
theorem succeeds_settle (hp : Nodes original pending)
    (hfull : Solved c original pending all full) (hall : pending ⊆ all) :
    ∀ (fuel : Nat) {nodes rest : List KeyPath}, all = nodes ++ rest → nodes.length ≤ fuel →
      Succeeds c original pending (settle c pending fuel) nodes
  | 0, _, _, _, hlength, n, hn, _, _, _ => by
      rw [List.length_eq_zero_iff.mp (Nat.le_zero.mp hlength)] at hn
      cases hn
  | fuel + 1, _, rest, hfront, hlength, n, hn, s, hs, hr => by
      by_cases hf : n ∈ s.finished
      · exact ⟨s, settle_of_finished fuel hf⟩
      have hrun : n ∉ s.running := fun h => hr n h hn
      obtain ⟨before, after, rfl⟩ := List.append_of_mem hn
      have hsplit : all = before ++ n :: (after ++ rest) := by
        rw [hfront, List.append_assoc, List.cons_append]
      have hpends : n ∈ pending :=
        hfull.subset (hsplit ▸ List.mem_append_right _ List.mem_cons_self)
      obtain ⟨source, v, hsource, -, hanswer, hsettled⟩ := hfull.holds hp.apart hsplit
      have hnow : (n.get? s.tree).bind source? = some source := by
        rwa [Solved.get?_of_not_mem hs hp.apart hpends hf]
      have hbefore : Succeeds c original pending (settle c pending fuel) before := by
        apply succeeds_settle hp hfull hall fuel hsplit
        rw [List.length_append, List.length_cons] at hlength
        omega
      have hout : ∀ r ∈ (s.begin n).running, r ∉ before := by
        intro r hmem
        rcases List.mem_append.mp hmem with hmem | hmem
        · exact fun h => hr r hmem (List.mem_append_left _ h)
        · rw [List.mem_singleton.mp hmem]
          have hnodup := hfull.nodup
          rw [hsplit] at hnodup
          exact fun h => (List.nodup_append.mp hnodup).2.2 n h n List.mem_cons_self rfl
      obtain ⟨u, hu⟩ := hbefore.run (s := s.begin n) (sound_settle hp fuel) hp hfull hall hanswer
        hsettled hs hout
      refine ⟨u.finish n v, ?_⟩
      rw [settle_of_source fuel hf hrun hnow, hu]
      rfl

/-! ## Two orders -/

/-- If one order that visits all nodes succeeds then each one does, with the same
tree. -/
theorem settleInOrder_of_subset (hp : Nodes original pending) {order order' : List KeyPath}
    {result : Json} (ho : order ⊆ pending) (hall : pending ⊆ order) (ho' : order' ⊆ pending)
    (hall' : pending ⊆ order') (h : settleInOrder c pending order original = .ok result) :
    settleInOrder c pending order' original = .ok result := by
  obtain ⟨all, hfull, hlisted⟩ := solved_of_settleInOrder hp ho h
  have hpending : pending ⊆ all := List.Subset.trans hall hlisted
  have hlength : all.length ≤ pending.length :=
    hfull.nodup.length_le_of_subset hfull.subset
  have hsucceeds : Succeeds c original pending (settle c pending (pending.length + 1)) all :=
    succeeds_settle hp hfull hpending _ (List.append_nil all).symm (Nat.le_succ_of_le hlength)
  obtain ⟨t, ht⟩ := hsucceeds.forM (s := ⟨original, [], []⟩) (sound_settle hp _)
    (List.Subset.trans ho' hpending) ho' Solved.nil fun r hr => nomatch hr
  have hother : settleInOrder c pending order' original = .ok t.tree :=
    bind_eq_ok.mpr ⟨((), t), ht, rfl⟩
  obtain ⟨all', hfull', hlisted'⟩ := solved_of_settleInOrder hp ho' hother
  have hpending' : pending ⊆ all' := List.Subset.trans hall' hlisted'
  rw [hother, hfull'.unique hfull hp.apart (List.Subset.trans hfull'.subset hpending)
    (List.Subset.trans hfull.subset hpending')]

end

/-- Every order of the collected nodes succeeds when the evaluation in document order
does, and with the same tree. -/
theorem settleInOrder_eq_ok_iff {c : Context} {tree : Json} {order : List KeyPath}
    (hd : tree.Distinct) (ho : order.Perm (collect [] tree)) (result : Json) :
    settleInOrder c (collect [] tree) order tree = .ok result ↔ evaluate c tree = .ok result := by
  have hp : Nodes tree (collect [] tree) := nodes_collect hd
  have hself : collect [] tree ⊆ collect [] tree := List.Subset.refl _
  constructor
  · exact settleInOrder_of_subset hp ho.subset ho.symm.subset hself hself
  · exact settleInOrder_of_subset hp hself hself ho.subset ho.symm.subset

/-- A tree whose nodes read each other in a chain. -/
def chainTree : Json :=
  .object [("a", .object [("__evaluate__", .string "self.b")]),
    ("b", .object [("__evaluate__", .string "self.c")]),
    ("c", .object [("__evaluate__", .string "debug")])]

/-- A context without further values and files. -/
def bareContext : Context :=
  ⟨⟨"/project"⟩, ⟨0⟩, true, "serve", [], ⟨[], ⟨"/project"⟩⟩⟩

/-- The tree that `chainTree` is evaluated to. -/
def chainResult : Json :=
  .object [("a", .bool true), ("b", .bool true), ("c", .bool true)]

/-- The nodes of `chainTree`, from the middle. -/
def chainOrder : List KeyPath := [[.key "b"], [.key "c"], [.key "a"]]

/-- From the middle the chain is evaluated as from its start. -/
theorem settleInOrder_chainTree :
    chainTree.Distinct ∧ chainOrder.Perm (collect [] chainTree) ∧
      evaluate bareContext chainTree = .ok chainResult ∧
      (settleInOrder bareContext (collect [] chainTree) chainOrder chainTree = .ok chainResult ↔
        evaluate bareContext chainTree = .ok chainResult) := by
  have hd : chainTree.Distinct := by decide
  have ho : chainOrder.Perm (collect [] chainTree) := by decide
  have h : evaluate bareContext chainTree = .ok chainResult := by cbv
  exact ⟨hd, ho, h, settleInOrder_eq_ok_iff hd ho chainResult⟩

end Evaluation

end BundleConfig
