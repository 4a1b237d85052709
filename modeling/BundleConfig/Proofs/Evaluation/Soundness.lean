import BundleConfig.Proofs.Evaluation.Solution
import BundleConfig.Proofs.Result

/-!
# Evaluation solves the tree

Evaluating on demand keeps the tree solved for the nodes that are finished.  The
evaluation of a node is interrupted by those it depends on, so the invariant is
about all nodes at once and is proved for `settle` by induction on its depth.

What an expression has read stays readable.  `Advances` says how far a successful
evaluation changes a state: it finishes nodes, it leaves what was settled as it was,
and it finishes none of the running nodes.  Therefore the answers an expression got
one after the other are what it reads on the tree at the end (`Sound.run`).
-/

namespace BundleConfig

namespace Evaluation

open Expression (dialogue Dialogue Run)

/-! ## One node -/

section

variable {c : Context} {pending : List KeyPath} {n : KeyPath} {s : State}

theorem settle_of_finished (fuel : Nat) (h : n ∈ s.finished) :
    settle c pending (fuel + 1) n s = .ok ((), s) := by
  have hrun : (settle c pending (fuel + 1) n).run s = pure ((), s) := by simp [settle, h]
  exact hrun

theorem settle_of_running (fuel : Nat) (hf : n ∉ s.finished) (h : n ∈ s.running) :
    settle c pending (fuel + 1) n s = .error (.cyclic (.reading (cycleAt s.running n))) := by
  have hrun : (settle c pending (fuel + 1) n).run s =
      (throw (.cyclic (.reading (cycleAt s.running n))) : Run State Unit).run s := by
    simp [settle, hf, h]
  exact hrun

/-- A node that is neither finished nor running gets the value its expression ends with. -/
theorem settle_of_source (fuel : Nat) {source : String} (hf : n ∉ s.finished)
    (hr : n ∉ s.running) (h : (n.get? s.tree).bind source? = some source) :
    settle c pending (fuel + 1) n s =
      ((dialogue c.view source).run (readSelf (settle c pending fuel) pending) (s.begin n)).map
        fun (v, t) => ((), t.finish n v) := by
  have hrun : (settle c pending (fuel + 1) n).run s =
      (fun (v, t) => ((), t.finish n v)) <$>
        (Expression.evaluate (scope c (settle c pending fuel) pending) source).run (s.begin n) := by
    simp [settle, hf, hr, h]
  exact hrun

end

/-! ## How far a state changes -/

/-- The state after a successful evaluation. -/
structure Advances (pending : List KeyPath) (s t : State) : Prop where
  /-- The same nodes are running. -/
  running : t.running = s.running
  /-- Finished nodes remain finished. -/
  finished : s.finished ⊆ t.finished
  /-- No running node was finished. -/
  apart : ∀ r ∈ s.running, r ∉ s.finished → r ∉ t.finished
  /-- Settled paths read as before. -/
  stable : ∀ q, Settled pending s.finished q → q.get? t.tree = q.get? s.tree

theorem Advances.refl (pending : List KeyPath) (s : State) : Advances pending s s :=
  ⟨rfl, List.Subset.refl _, fun _ _ h => h, fun _ _ => rfl⟩

theorem Advances.trans {pending : List KeyPath} {s t u : State} (h : Advances pending s t)
    (h' : Advances pending t u) : Advances pending s u := by
  refine ⟨h'.running.trans h.running, List.Subset.trans h.finished h'.finished, ?_, ?_⟩
  · intro r hr hf
    exact h'.apart r (h.running ▸ hr) (h.apart r hr hf)
  · intro q hq
    rw [h'.stable q (hq.mono h.finished), h.stable q hq]

/-! ## Demands -/

section

variable {c : Context} {original : Json} {pending : List KeyPath}

/-- The finished nodes of a state solve its tree. -/
def State.Solves (c : Context) (original : Json) (pending : List KeyPath) (s : State) : Prop :=
  Solved c original pending s.finished s.tree

/-- A demand that succeeds finishes its node and keeps the tree solved. -/
def Sound (c : Context) (original : Json) (pending : List KeyPath)
    (demand : KeyPath → Run State Unit) : Prop :=
  ∀ (n : KeyPath) (s t : State), n ∈ pending → s.Solves c original pending →
    demand n s = .ok ((), t) →
    t.Solves c original pending ∧ Advances pending s t ∧ n ∈ t.finished

variable {demand : KeyPath → Run State Unit}

/-- Demands one after the other finish all nodes. -/
theorem Sound.forM (hd : Sound c original pending demand) {nodes : List KeyPath} {s t : State}
    (hn : nodes ⊆ pending) (hs : s.Solves c original pending)
    (h : nodes.forM demand s = .ok ((), t)) :
    t.Solves c original pending ∧ Advances pending s t ∧ nodes ⊆ t.finished := by
  induction nodes generalizing s with
  | nil =>
      cases h
      exact ⟨hs, .refl pending _, List.nil_subset _⟩
  | cons n rest ih =>
      obtain ⟨hpends, hrest⟩ := List.cons_subset.mp hn
      obtain ⟨_, u, hfirst, hothers⟩ := stateT_bind_eq_ok.mp h
      obtain ⟨hu, hadvance, hmem⟩ := hd n s u hpends hs hfirst
      obtain ⟨ht, hadvance', hsub⟩ := ih hrest hu hothers
      exact ⟨ht, hadvance.trans hadvance',
        List.cons_subset.mpr ⟨hadvance'.finished hmem, hsub⟩⟩

/-- What is read is settled, and it is the node of the tree. -/
theorem Sound.readSelf (hd : Sound c original pending demand) {path : KeyPath} {s t : State}
    {answer : Json} (hs : s.Solves c original pending)
    (h : readSelf demand pending path s = .ok (answer, t)) :
    t.Solves c original pending ∧ Advances pending s t ∧ Settled pending t.finished path ∧
      answer = Dialogue.nodeOf t.tree path := by
  obtain ⟨_, u, hdemands, hread⟩ := stateT_bind_eq_ok.mp h
  cases hread
  obtain ⟨ht, hadvance, hsub⟩ := hd.forM (fun n hn => (mem_related.mp hn).1) hs hdemands
  exact ⟨ht, hadvance, fun n hn => hsub hn, rfl⟩

/-- An expression has on the tree at the end the value it ended with, and all it read
is settled. -/
theorem Sound.run {α : Type} (hd : Sound c original pending demand) {d : Dialogue α}
    {s t : State} {a : α} (hs : s.Solves c original pending)
    (h : d.run (Evaluation.readSelf demand pending) s = .ok (a, t)) :
    t.Solves c original pending ∧ Advances pending s t ∧ d.answer t.tree = .ok a ∧
      ∀ q ∈ d.questions t.tree, Settled pending t.finished q := by
  induction d generalizing s with
  | done b =>
      cases h
      exact ⟨hs, .refl pending _, rfl, fun q hq => nomatch hq⟩
  | failed e => cases h
  | asks path next ih =>
      obtain ⟨answer, u, hread, hrest⟩ := stateT_bind_eq_ok.mp h
      obtain ⟨hu, hadvance, hsettled, rfl⟩ := hd.readSelf hs hread
      obtain ⟨ht, hadvance', hanswer, hquestions⟩ := ih _ hu hrest
      have hnode : Dialogue.nodeOf t.tree path = Dialogue.nodeOf u.tree path :=
        congrArg (·.getD .null) (hadvance'.stable path hsettled)
      refine ⟨ht, hadvance.trans hadvance', ?_, ?_⟩
      · rw [Dialogue.answer, hnode]
        exact hanswer
      · rw [Dialogue.questions, hnode]
        exact List.forall_mem_cons.mpr ⟨hsettled.mono hadvance'.finished, hquestions⟩

/-! ## The evaluation -/

/-- A node whose expression has ended advances the state from before it began. -/
theorem Advances.finish {n : KeyPath} {s t : State} (v : Json) (h : Advances pending (s.begin n) t)
    (hn : n ∈ pending) (hf : n ∉ s.finished) (hr : n ∉ s.running) :
    Advances pending s (t.finish n v) := by
  constructor
  · show t.running.dropLast = s.running
    rw [h.running]
    exact List.dropLast_concat
  · exact List.Subset.trans h.finished (List.subset_append_left _ _)
  · intro r hrun hfresh hmem
    rcases List.mem_append.mp hmem with hmem | hmem
    · exact h.apart r (List.mem_append_left _ hrun) hfresh hmem
    · exact hr (List.mem_singleton.mp hmem ▸ hrun)
  · intro q hq
    show q.get? (n.set v t.tree) = q.get? s.tree
    rw [KeyPath.get?_set_of_unrelated (hq.unrelated hn hf)]
    exact h.stable q hq

/-- Evaluating nodes on demand is sound at every depth. -/
theorem sound_settle (hp : Nodes original pending) :
    ∀ fuel, Sound c original pending (settle c pending fuel)
  | 0, _, _, _, _, _, h => by cases h
  | fuel + 1, n, s, t, hn, hs, h => by
      by_cases hf : n ∈ s.finished
      · rw [settle_of_finished fuel hf] at h
        cases h
        exact ⟨hs, .refl pending s, hf⟩
      by_cases hr : n ∈ s.running
      · rw [settle_of_running fuel hf hr] at h
        cases h
      obtain ⟨source, hsource⟩ := Option.isSome_iff_exists.mp (hp.source n hn)
      have hnow : (n.get? s.tree).bind source? = some source := by
        rwa [Solved.get?_of_not_mem hs hp.apart hn hf]
      rw [settle_of_source fuel hf hr hnow] at h
      obtain ⟨⟨v, u⟩, hrun, hend⟩ := map_eq_ok.mp h
      cases hend
      obtain ⟨hu, hadvance, hanswer, hsettles⟩ :=
        (sound_settle hp fuel).run (s := s.begin n) hs hrun
      have hfresh : n ∉ u.finished :=
        hadvance.apart n (List.mem_append_right _ (List.mem_singleton_self n)) hf
      exact ⟨.finish hu hn hfresh hsource hanswer hsettles, hadvance.finish v hn hf hr,
        List.mem_append_right _ (List.mem_singleton_self n)⟩

/-- A tree that was evaluated in some order is solved for the nodes of that order. -/
theorem solved_of_settleInOrder {order : List KeyPath} {tree : Json} (hp : Nodes original pending)
    (ho : order ⊆ pending) (h : settleInOrder c pending order original = .ok tree) :
    ∃ done, Solved c original pending done tree ∧ order ⊆ done := by
  obtain ⟨⟨_, t⟩, hrun, hend⟩ := bind_eq_ok.mp h
  cases hend
  obtain ⟨ht, -, hsub⟩ :=
    (sound_settle hp _).forM (s := ⟨original, [], []⟩) ho Solved.nil hrun
  exact ⟨t.finished, ht, hsub⟩

end

end Evaluation

end BundleConfig
