import BundleConfig.Proofs.Evaluation.Nodes
import BundleConfig.Proofs.Expression.Dialogue
import Mathlib.Data.List.Nodup

/-!
# Solutions

A tree is *solved* for a list of its nodes when the nodes can be given their values
in the order of the list, each expression reading only what the nodes before it
settle.  `Solved` has one rule for each further node, and says nothing about the
evaluation that finds the order.

What is settled stays as it is.  `Solved.holds` follows: on the solved tree every
listed node still has the value of its expression, which still reads only what the
nodes before it settle.  `Solved.agree` says that two solutions agree on the nodes
of the first if the second lists them too, whatever their orders are.
-/

namespace BundleConfig

namespace Evaluation

open Expression (dialogue Dialogue)

/-! ## Settled paths -/

/-- Everything that reading the path depends on is among the finished nodes. -/
def Settled (pending finished : List KeyPath) (path : KeyPath) : Prop :=
  ∀ n ∈ related pending path, n ∈ finished

theorem mem_related {pending : List KeyPath} {path n : KeyPath} :
    n ∈ related pending path ↔ n ∈ pending ∧ KeyPath.Related n path := by
  rw [related, List.mem_filter, Bool.or_eq_true, KeyPath.startsWith_iff, KeyPath.startsWith_iff]
  rfl

theorem Settled.mono {pending finished finished' : List KeyPath} {path : KeyPath}
    (h : Settled pending finished path) (hs : finished ⊆ finished') :
    Settled pending finished' path :=
  fun n hn => hs (h n hn)

/-- A settled path is unrelated to the nodes that are not finished. -/
theorem Settled.unrelated {pending finished : List KeyPath} {path n : KeyPath}
    (h : Settled pending finished path) (hn : n ∈ pending) (hf : n ∉ finished) :
    ¬ KeyPath.Related n path :=
  fun hr => hf (h n (mem_related.mpr ⟨hn, hr⟩))

/-! ## Solved trees -/

section

variable {c : Context} {original tree : Json} {pending done : List KeyPath}

/-- The tree is the original with the values of the given nodes. -/
inductive Solved (c : Context) (original : Json) (pending : List KeyPath) :
    (done : List KeyPath) → (tree : Json) → Prop
  /-- Nothing has its value yet. -/
  | nil : Solved c original pending [] original
  /-- One more node gets the value that its expression has on the tree so far. -/
  | finish {done : List KeyPath} {tree v : Json} {n : KeyPath} {source : String}
      (solved : Solved c original pending done tree)
      (pends : n ∈ pending)
      (fresh : n ∉ done)
      (hasSource : (n.get? original).bind source? = some source)
      (answers : (dialogue c.view source).answer tree = .ok v)
      (settles : ∀ q ∈ (dialogue c.view source).questions tree, Settled pending done q) :
      Solved c original pending (done ++ [n]) (n.set v tree)

theorem Solved.nodup (h : Solved c original pending done tree) : done.Nodup := by
  induction h with
  | nil => exact List.nodup_nil
  | finish _ _ fresh _ _ _ ih =>
      rw [← List.concat_eq_append]
      exact List.Nodup.concat fresh ih

theorem Solved.subset (h : Solved c original pending done tree) : done ⊆ pending := by
  induction h with
  | nil => exact List.nil_subset _
  | finish _ pends _ _ _ _ ih =>
      exact List.append_subset.mpr ⟨ih, List.cons_subset.mpr ⟨pends, List.nil_subset _⟩⟩

/-- What is unrelated to all nodes done is as in the original. -/
theorem Solved.get?_of_unrelated (h : Solved c original pending done tree) {q : KeyPath}
    (hq : ∀ n ∈ done, ¬ KeyPath.Related n q) : q.get? tree = q.get? original := by
  induction h with
  | nil => rfl
  | @finish done tree v n _ _ _ _ _ _ _ ih =>
      obtain ⟨hdone, hn⟩ := List.forall_mem_append.mp hq
      rw [KeyPath.get?_set_of_unrelated (hn n (List.mem_singleton_self n))]
      exact ih hdone

/-- A node that is not done is as in the original. -/
theorem Solved.get?_of_not_mem (h : Solved c original pending done tree)
    (ha : KeyPath.Apart pending) {n : KeyPath} (hn : n ∈ pending) (hf : n ∉ done) :
    n.get? tree = n.get? original := by
  apply h.get?_of_unrelated
  intro m hm
  exact ha m (h.subset hm) n hn fun e => hf (e ▸ hm)

/-- A node that gets its value has it. -/
theorem Solved.get?_set (h : Solved c original pending done tree)
    (ha : KeyPath.Apart pending) {n : KeyPath} {source : String} (hn : n ∈ pending)
    (hf : n ∉ done) (hsource : (n.get? original).bind source? = some source) (v : Json) :
    n.get? (n.set v tree) = some v := by
  apply KeyPath.get?_set_self
  obtain ⟨w, hw, -⟩ := Option.bind_eq_some_iff.mp hsource
  rw [h.get?_of_not_mem ha hn hf, hw]
  rfl

/-- A solved tree is the original with its own values grafted at the nodes done. -/
theorem Solved.eq_graft (h : Solved c original pending done tree) (ha : KeyPath.Apart pending) :
    tree = KeyPath.graft tree done original := by
  induction h with
  | nil => rfl
  | @finish done tree v n source solved pends fresh hasSource _ _ ih =>
      have hself : n.get? (n.set v tree) = some v := solved.get?_set ha pends fresh hasSource v
      have hothers : ∀ m ∈ done, m.get? (n.set v tree) = m.get? tree := by
        intro m hm
        have hne : n ≠ m := fun e => fresh (e ▸ hm)
        exact KeyPath.get?_set_of_unrelated (ha n pends m (solved.subset hm) hne) v tree
      rw [KeyPath.graft_concat hself, KeyPath.graft_congr hothers, ← ih]

/-! ## What holds on a solved tree -/

/-- The node has the value that its expression has on the tree, and the expression
reads only what the nodes `before` settle. -/
def Holds (c : Context) (original tree : Json) (pending before : List KeyPath) (n : KeyPath) :
    Prop :=
  ∃ source v, (n.get? original).bind source? = some source ∧ n.get? tree = some v ∧
    (dialogue c.view source).answer tree = .ok v ∧
    ∀ q ∈ (dialogue c.view source).questions tree, Settled pending before q

/-- A node still holds on a tree that agrees with the first on the node and on what
the nodes before it settle. -/
theorem Holds.congr {before : List KeyPath} {n : KeyPath} {tree' : Json}
    (h : Holds c original tree pending before n) (hn : n.get? tree' = n.get? tree)
    (hq : ∀ q, Settled pending before q → q.get? tree' = q.get? tree) :
    Holds c original tree' pending before n := by
  obtain ⟨source, v, hsource, hv, hanswer, hsettles⟩ := h
  have hsame : ∀ q ∈ (dialogue c.view source).questions tree, q.get? tree' = q.get? tree :=
    fun q hmem => hq q (hsettles q hmem)
  refine ⟨source, v, hsource, hn.trans hv, ?_, ?_⟩
  · rw [Dialogue.answer_congr hsame, hanswer]
  · rw [Dialogue.questions_congr hsame]
    exact hsettles

/-- Every node done holds with the nodes before it. -/
theorem Solved.holds (h : Solved c original pending done tree) (ha : KeyPath.Apart pending)
    {before after : List KeyPath} {n : KeyPath} (hdone : done = before ++ n :: after) :
    Holds c original tree pending before n := by
  induction h generalizing after with
  | nil => exact absurd hdone (by simp)
  | @finish done tree v m source solved pends fresh hasSource answers settles ih =>
      have hstable : ∀ q, Settled pending done q → q.get? (m.set v tree) = q.get? tree :=
        fun q hq => KeyPath.get?_set_of_unrelated (hq.unrelated pends fresh) v tree
      rcases List.eq_nil_or_concat after with rfl | ⟨rest, last, rfl⟩
      · obtain ⟨rfl, hlast⟩ := List.append_inj' hdone rfl
        cases hlast
        have hquestions : ∀ q ∈ (dialogue c.view source).questions tree,
            q.get? (n.set v tree) = q.get? tree := fun q hq => hstable q (settles q hq)
        refine ⟨source, v, hasSource, solved.get?_set ha pends fresh hasSource v, ?_, ?_⟩
        · rw [Dialogue.answer_congr hquestions, answers]
        · rw [Dialogue.questions_congr hquestions]
          exact settles
      · rw [List.concat_eq_append, ← List.cons_append, ← List.append_assoc] at hdone
        obtain ⟨hdone, -⟩ := List.append_inj' hdone rfl
        have hmem : n ∈ done := hdone ▸ List.mem_append_right _ List.mem_cons_self
        have hne : m ≠ n := fun e => fresh (e ▸ hmem)
        refine (ih hdone).congr ?_ fun q hq => hstable q (hq.mono ?_)
        · exact KeyPath.get?_set_of_unrelated (ha m pends n (solved.subset hmem) hne) v tree
        · rw [hdone]
          exact List.subset_append_left _ _

/-! ## Two solutions -/

variable {tree' : Json} {done' : List KeyPath}

/-- Solutions that agree on the nodes of the first agree on all that these settle: the second tree
is the first with the nodes grafted that the first does not list. -/
theorem Solved.get?_of_agree (h : Solved c original pending done tree)
    (h' : Solved c original pending done' tree') (ha : KeyPath.Apart pending) (hs : done ⊆ done')
    (hagree : ∀ n ∈ done, n.get? tree = n.get? tree') {q : KeyPath}
    (hq : Settled pending done q) : q.get? tree = q.get? tree' := by
  have hperm : done'.Perm (done ++ done'.filter (· ∉ done)) := by
    apply (List.perm_ext_iff_of_nodup h'.nodup ?_).mpr
    · intro n
      rw [List.mem_append, List.mem_filter, decide_eq_true_iff]
      constructor
      · intro hn
        by_cases hd : n ∈ done
        · exact Or.inl hd
        · exact Or.inr ⟨hn, hd⟩
      · rintro (hn | ⟨hn, -⟩)
        · exact hs hn
        · exact hn
    · refine List.Nodup.append h.nodup (h'.nodup.filter _) ?_
      intro n hn hrest
      exact (of_decide_eq_true (List.mem_filter.mp hrest).2) hn
  have hgraft : tree' = KeyPath.graft tree' (done'.filter (· ∉ done)) tree := by
    calc tree' = KeyPath.graft tree' done' original := h'.eq_graft ha
      _ = KeyPath.graft tree' (done ++ done'.filter (· ∉ done)) original :=
          KeyPath.graft_perm hperm (ha.of_subset h'.subset) original
      _ = KeyPath.graft tree' (done'.filter (· ∉ done)) (KeyPath.graft tree' done original) :=
          KeyPath.graft_append _ _ _ _
      _ = KeyPath.graft tree' (done'.filter (· ∉ done)) (KeyPath.graft tree done original) := by
          rw [KeyPath.graft_congr hagree]
      _ = KeyPath.graft tree' (done'.filter (· ∉ done)) tree := by rw [← h.eq_graft ha]
  rw [hgraft]
  refine (KeyPath.get?_graft_of_unrelated ?_ tree).symm
  intro n hn
  obtain ⟨hn, hf⟩ := List.mem_filter.mp hn
  exact hq.unrelated (h'.subset hn) (of_decide_eq_true hf)

/-- A solution agrees on its nodes with every solution that lists them. -/
theorem Solved.agree (h : Solved c original pending done tree)
    (h' : Solved c original pending done' tree') (ha : KeyPath.Apart pending)
    (hs : done ⊆ done') : ∀ n ∈ done, n.get? tree = n.get? tree' := by
  induction h with
  | nil =>
      intro n hn
      cases hn
  | @finish done tree v m source solved pends fresh hasSource answers settles ih =>
      obtain ⟨hdone, hm⟩ := List.append_subset.mp hs
      have hbefore := ih hdone
      intro n hn
      rcases List.mem_append.mp hn with hn | hn
      · have hne : m ≠ n := fun e => fresh (e ▸ hn)
        rw [KeyPath.get?_set_of_unrelated (ha m pends n (solved.subset hn) hne)]
        exact hbefore n hn
      · rw [List.mem_singleton.mp hn, solved.get?_set ha pends fresh hasSource]
        obtain ⟨before, after, hsplit⟩ := List.append_of_mem (hm (List.mem_singleton_self m))
        obtain ⟨source', v', hsource', hv', hanswer', -⟩ := h'.holds ha hsplit
        cases hasSource.symm.trans hsource'
        have hanswer : (dialogue c.view source).answer tree' = .ok v := by
          rw [← answers]
          refine Dialogue.answer_congr fun q hq => ?_
          exact (solved.get?_of_agree h' ha hdone hbefore (settles q hq)).symm
        cases hanswer.symm.trans hanswer'
        exact hv'.symm

/-- What a solution settles is as in every solution that lists its nodes. -/
theorem Solved.get?_of_settled (h : Solved c original pending done tree)
    (h' : Solved c original pending done' tree') (ha : KeyPath.Apart pending)
    (hs : done ⊆ done') {q : KeyPath} (hq : Settled pending done q) :
    q.get? tree = q.get? tree' :=
  h.get?_of_agree h' ha hs (h.agree h' ha hs) hq

/-- Solutions with the same nodes are the same. -/
theorem Solved.unique (h : Solved c original pending done tree)
    (h' : Solved c original pending done' tree') (ha : KeyPath.Apart pending)
    (hs : done ⊆ done') (hs' : done' ⊆ done) : tree = tree' := by
  have hperm : done.Perm done' :=
    (List.perm_ext_iff_of_nodup h.nodup h'.nodup).mpr fun n => ⟨(hs ·), (hs' ·)⟩
  rw [h.eq_graft ha, h'.eq_graft ha, KeyPath.graft_congr (h.agree h' ha hs)]
  exact KeyPath.graft_perm hperm (ha.of_subset h.subset) original

end

end Evaluation

end BundleConfig
