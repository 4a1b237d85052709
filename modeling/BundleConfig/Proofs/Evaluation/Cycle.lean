import BundleConfig.Proofs.Evaluation.Steps
import BundleConfig.Proofs.Expression.Reads

/-!
# Cycles

When the evaluation of a tree fails with a cycle, then there is one.  Each node of the
report reads a chain that leads to the next node, and the last node is the first one again
(`evaluate_cyclic`).

*Stacks.*  The tasks of a run tell who asked for what.  A node is visited because the
expression of the last running node waits for a path that is related to it (`Linked`), and
that expression got there by questions whose answers are final (`Traced`).  Nothing is
answered before all nodes that it depends on have their values (`Covered`).

*Lengths.*  For `length` an expression reads what the chain before it leads to.  There a
node may be reported that the chain as a whole has nothing to do with, as `lengthTree`
shows: its only node reads the key `length` of the mapping that the node itself is in.
-/

namespace BundleConfig

namespace Evaluation

open Expression (dialogue Dialogue Read readsOfSource questions_dialogue neverCyclic_dialogue
  accessed_of_mem_access)
open Expression.Dialogue (Proceeds)

/-- After reads that are settled, the expression of the first node reads a chain that is
related to the second node, or else the length of something that the second node is in. -/
def Leads (c : Context) (original tree : Json) (pending done : List KeyPath) (n m : KeyPath) :
    Prop :=
  ∃ source before r after, (n.get? original).bind source? = some source ∧
    readsOfSource c.view source tree = before ++ r :: after ∧
    (∀ b ∈ before, Settled pending done b.asked) ∧
    (KeyPath.Related m r.accessed ∨ ∃ path, r = .lengthOf path ∧ path <+: m)

/-! ## Stacks -/

/-- The node of a task. -/
def Task.node : Task → KeyPath
  | visit n => n
  | compute n _ => n
  | answer n _ _ => n

/-- What is left of the expression of a task. -/
def Task.rest? : Task → Option (Dialogue Json)
  | visit _ => none
  | compute _ d => some d
  | answer _ path next => some (.asks path next)

/-- The expression of the first node waits for a path that is related to the second node. -/
def Waits (tasks : List Task) (n m : KeyPath) : Prop :=
  ∃ path next, Task.answer n path next ∈ tasks ∧ KeyPath.Related m path

/-- The last running node below a task waits for the task's node. -/
def Linked : List Task → Prop
  | [] => True
  | t :: rest => (∀ n ∈ (begunBy rest).getLast?, Waits rest n t.node) ∧ Linked rest

/-- All nodes that a question depends on are known or have a task above it. -/
def Covered (pending known : List KeyPath) : List Task → Prop
  | [] => True
  | t :: rest =>
      (∀ n path next, t = .answer n path next → related pending path ⊆ known) ∧
        Covered pending (t.node :: known) rest

section

variable {c : Context} {original : Json} {pending known known' : List KeyPath} {n m : KeyPath}
  {rest tasks : List Task}

theorem Waits.mono {tasks' : List Task} (h : Waits tasks n m) (hsub : tasks ⊆ tasks') :
    Waits tasks' n m := by
  obtain ⟨path, next, hmem, hrelated⟩ := h
  exact ⟨path, next, hsub hmem, hrelated⟩

/-- The node of a task comes after the running nodes below it. -/
theorem Linked.isChain_concat {t : Task} (h : Linked (t :: rest))
    (hrest : (begunBy rest).IsChain (Waits rest)) :
    (begunBy rest ++ [t.node]).IsChain (Waits rest) := by
  refine List.isChain_append.mpr ⟨hrest, .singleton _, fun m hm k hk => ?_⟩
  cases hk
  exact h.1 m hm

/-- Each running node waits for the next one. -/
theorem Linked.isChain (h : Linked tasks) : (begunBy tasks).IsChain (Waits tasks) := by
  induction tasks with
  | nil => exact .nil
  | cons t rest ih =>
      have hmono : ∀ m k, Waits rest m k → Waits (t :: rest) m k :=
        fun _ _ hw => hw.mono (List.subset_cons_self t rest)
      have hconcat := (h.isChain_concat (ih h.2)).imp hmono
      cases t with
      | visit n => exact (ih h.2).imp hmono
      | compute n d => exact (begunBy_compute n d rest).symm ▸ hconcat
      | answer n path next => exact (begunBy_answer n path next rest).symm ▸ hconcat

theorem Covered.mono (h : Covered pending known tasks) (hsub : known ⊆ known') :
    Covered pending known' tasks := by
  induction tasks generalizing known known' with
  | nil => trivial
  | cons t rest ih =>
      exact ⟨fun n path next ht => List.Subset.trans (h.1 n path next ht) hsub,
        ih h.2 (List.cons_subset_cons _ hsub)⟩

/-- The tasks below some visits may count on all visited nodes. -/
theorem Covered.visits {nodes : List KeyPath} (h : Covered pending (nodes ++ known) tasks) :
    Covered pending known (nodes.map .visit ++ tasks) := by
  induction nodes generalizing known with
  | nil => exact h
  | cons k nodes ih =>
      exact ⟨nofun, ih (h.mono List.perm_middle.symm.subset)⟩

/-- The last running node may wait for some more visits. -/
theorem Linked.visits {nodes : List KeyPath} (h : Linked tasks)
    (hwaits : ∀ n ∈ (begunBy tasks).getLast?, ∀ m ∈ nodes, Waits tasks n m) :
    Linked (nodes.map .visit ++ tasks) := by
  induction nodes with
  | nil => exact h
  | cons k nodes ih =>
      refine ⟨fun n hn => ?_, ih fun n hn m hm => hwaits n hn m (List.mem_cons_of_mem _ hm)⟩
      have hlast : n ∈ (begunBy tasks).getLast? := begunBy_visits nodes tasks ▸ hn
      exact (hwaits n hlast k List.mem_cons_self).mono (List.subset_append_right _ _)

/-! ## Runs without an error -/

/-- What holds in a run as long as there is no error. -/
structure Traced (c : Context) (original : Json) (pending : List KeyPath) (s : State)
    (tasks : List Task) : Prop where
  /-- The finished nodes have their values. -/
  solved : Solved c original pending s.finished s.tree
  /-- Every expression got where it is by questions whose answers are final. -/
  proceeds : ∀ t ∈ tasks, ∀ d, t.rest? = some d →
    ∃ source, (t.node.get? original).bind source? = some source ∧
      Proceeds (Settled pending s.finished) s.tree (dialogue c.view source) d
  /-- A question is answered after the nodes it depends on. -/
  covered : Covered pending s.finished tasks
  /-- A node is visited for the last running one. -/
  linked : Linked tasks

variable {s : State}

theorem traced_start (tree : Json) :
    Traced c tree (collect [] tree) (start tree).state (start tree).tasks where
  solved := .nil
  proceeds := by
    rintro t ht d hd
    obtain ⟨n, -, rfl⟩ := List.mem_map.mp ht
    cases hd
  covered := by
    rw [start, ← List.append_nil (List.map _ _)]
    exact Covered.visits trivial
  linked := by
    rw [start, ← List.append_nil (List.map _ _)]
    refine Linked.visits trivial fun n hn => ?_
    cases hn

/-- Another task in the place of the first one keeps the trace, if it has the same node. -/
theorem Traced.replace {t t' : Task} (h : Traced c original pending s (t :: rest))
    (hnode : t'.node = t.node) (hask : ∀ n path next, t' ≠ .answer n path next)
    (hproceeds : ∀ d, t'.rest? = some d →
      ∃ source, (t'.node.get? original).bind source? = some source ∧
        Proceeds (Settled pending s.finished) s.tree (dialogue c.view source) d) :
    Traced c original pending s (t' :: rest) where
  solved := h.solved
  proceeds := List.forall_mem_cons.mpr ⟨hproceeds, (List.forall_mem_cons.mp h.proceeds).2⟩
  covered := ⟨fun n path next ht => absurd ht (hask n path next), hnode ▸ h.covered.2⟩
  linked := ⟨hnode ▸ h.linked.1, h.linked.2⟩

theorem Traced.begin {source : String} (h : Traced c original pending s (.visit n :: rest))
    (hsource : (n.get? original).bind source? = some source) :
    Traced c original pending (s.begin n) (.compute n (dialogue c.view source) :: rest) :=
  have hreplaced : Traced c original pending s (.compute n (dialogue c.view source) :: rest) :=
    h.replace rfl nofun fun d hd => by
      cases hd
      exact ⟨source, hsource, .refl _⟩
  ⟨hreplaced.solved, hreplaced.proceeds, hreplaced.covered, hreplaced.linked⟩

/-- A task that is over and whose node is finished leaves the trace of the tasks below. -/
theorem Traced.tail {t : Task} (h : Traced c original pending s (t :: rest))
    (hnode : t.node ∈ s.finished) : Traced c original pending s rest where
  solved := h.solved
  proceeds := (List.forall_mem_cons.mp h.proceeds).2
  covered := h.covered.2.mono (List.cons_subset.mpr ⟨hnode, List.Subset.refl _⟩)
  linked := h.linked.2

theorem Traced.ask {path : KeyPath} {next : Json → Dialogue Json}
    (h : Traced c original pending s (.compute n (.asks path next) :: rest)) :
    Traced c original pending s
      ((related pending path).map .visit ++ .answer n path next :: rest) where
  solved := h.solved
  proceeds := by
    intro t ht d hd
    obtain ⟨hfirst, hrest⟩ := List.forall_mem_cons.mp h.proceeds
    rcases List.mem_append.mp ht with ht | ht
    · obtain ⟨k, -, rfl⟩ := List.mem_map.mp ht
      cases hd
    · rcases List.mem_cons.mp ht with rfl | ht
      · exact hfirst d hd
      · exact hrest t ht d hd
  covered := by
    refine Covered.visits ⟨fun k path' next' heq => ?_, ?_⟩
    · cases heq
      exact List.subset_append_left _ _
    · exact h.covered.2.mono (List.cons_subset_cons _ (List.subset_append_right _ _))
  linked := by
    have hbelow : Linked (.answer n path next :: rest) := h.linked
    refine hbelow.visits fun m hm k hk => ?_
    rw [begunBy_answer, List.getLast?_concat] at hm
    cases hm
    exact ⟨path, next, List.mem_cons_self, (mem_related.mp hk).2⟩

/-- What is asked is settled when nothing is left to visit. -/
theorem Traced.settled {path : KeyPath} {next : Json → Dialogue Json}
    (h : Traced c original pending s (.answer n path next :: rest)) :
    Settled pending s.finished path :=
  fun _ hk => h.covered.1 n path next rfl hk

theorem Traced.answer {path : KeyPath} {next : Json → Dialogue Json}
    (h : Traced c original pending s (.answer n path next :: rest)) :
    Traced c original pending s
      (.compute n (next (Dialogue.nodeOf s.tree path)) :: rest) := by
  refine h.replace rfl nofun ?_
  rintro d ⟨⟩
  obtain ⟨source, hsource, hp⟩ := h.proceeds _ List.mem_cons_self _ rfl
  exact ⟨source, hsource, hp.next h.settled⟩

theorem Traced.finish {v : Json} (h : Traced c original pending s (.compute n (.done v) :: rest))
    (ha : n ∈ pending) (hf : n ∉ s.finished) :
    Traced c original pending (s.finish n v) rest where
  solved := by
    obtain ⟨source, hsource, hp⟩ := h.proceeds _ List.mem_cons_self _ rfl
    obtain ⟨before, hquestions, hbefore⟩ := hp.questions
    refine .finish h.solved ha hf hsource hp.answer_eq fun q hq => ?_
    rw [hquestions] at hq
    exact hbefore q ((List.append_nil before) ▸ hq)
  proceeds := by
    intro t ht d hd
    obtain ⟨source, hsource, hp⟩ := h.proceeds t (List.mem_cons_of_mem _ ht) d hd
    refine ⟨source, hsource, hp.congr fun q hq => ⟨hq.mono (List.subset_append_left _ _), ?_⟩⟩
    exact KeyPath.get?_set_of_unrelated (hq.unrelated ha hf) v s.tree
  covered := h.covered.2.mono
    (List.cons_subset.mpr ⟨List.mem_append_right _ (List.mem_singleton_self n),
      List.subset_append_left _ _⟩)
  linked := h.linked.2

/-- A node that waits leads to the nodes it waits for. -/
theorem Traced.leads (h : Traced c original pending s tasks) (hw : Waits tasks n m) :
    Leads c original s.tree pending s.finished n m := by
  obtain ⟨path, next, hmem, hrelated⟩ := hw
  obtain ⟨source, hsource, hp⟩ := h.proceeds _ hmem _ rfl
  obtain ⟨before, hquestions, hbefore⟩ := hp.questions
  rw [questions_dialogue] at hquestions
  obtain ⟨reads, others, hreads, hmap, hothers⟩ := List.map_eq_append_iff.mp hquestions
  obtain ⟨r, after, rfl, hr, -⟩ := List.map_eq_cons_iff.mp hothers
  refine ⟨source, reads, r, after, hsource, hreads, fun b hb => hbefore _ ?_, ?_⟩
  · exact hmap ▸ List.mem_map_of_mem hb
  · subst hr
    cases r with
    | chain q => exact .inl hrelated
    | lengthOf q =>
        rcases hrelated with habove | hbelow
        · exact .inl (.inl (habove.trans (List.prefix_append _ _)))
        · exact .inr ⟨q, rfl, hbelow⟩

/-! ## The report of a cycle -/

/-- The report is a cycle of nodes that lead from each to the next. -/
def Reported (c : Context) (original : Json) (pending : List KeyPath) (cycle : Cycle) : Prop :=
  ∃ done tree n nodes, Solved c original pending done tree ∧
    cycle = .reading (n :: nodes ++ [n]) ∧ n :: nodes ⊆ pending ∧
    (n :: nodes ++ [n]).IsChain (Leads c original tree pending done)

/-- What holds at every point of a run, with or without an error. -/
structure Explained (c : Context) (original : Json) (pending : List KeyPath) (p : Point) :
    Prop where
  /-- Without an error the point is traced. -/
  traced : p.failure = none → Traced c original pending p.state p.tasks
  /-- The error of a cycle reports one. -/
  reported : ∀ cycle, p.failure = some (.cyclic cycle) → Reported c original pending cycle

variable {p q : Point}

/-- The running nodes from a running one on start with that one. -/
theorem exists_dropWhile_eq_cons {running : List KeyPath} (h : n ∈ running) :
    ∃ nodes, running.dropWhile (· != n) = n :: nodes := by
  induction running with
  | nil => cases h
  | cons m running ih =>
      by_cases hm : m = n
      · exact ⟨running, by simp [hm]⟩
      · obtain ⟨nodes, hnodes⟩ := ih ((List.mem_cons.mp h).resolve_left (Ne.symm hm))
        exact ⟨nodes, by simpa [hm] using hnodes⟩

theorem Traced.explained (h : Traced c original pending p.state p.tasks) (hp : p.failure = none) :
    Explained c original pending p where
  traced := fun _ => h
  reported := fun cycle hcycle => by
    rw [hp] at hcycle
    cases hcycle

/-- Visiting a running node closes a cycle. -/
theorem Traced.reported (h : Traced c original pending s (.visit n :: rest))
    (hv : Valid pending ⟨s, .visit n :: rest, none⟩) (hn : n ∈ s.running) :
    Reported c original pending (.reading (cycleAt s.running n)) := by
  have hrunning : s.running = begunBy rest := hv.running
  have hchain : (s.running ++ [n]).IsChain (Leads c original s.tree pending s.finished) :=
    hrunning ▸ (h.linked.isChain_concat h.linked.2.isChain).imp fun _ _ hw =>
      h.leads (hw.mono (List.subset_cons_self _ rest))
  obtain ⟨nodes, hnodes⟩ := exists_dropWhile_eq_cons hn
  obtain ⟨outer, houter⟩ : n :: nodes <:+ s.running := hnodes ▸ List.dropWhile_suffix _
  refine ⟨s.finished, s.tree, n, nodes, h.solved, ?_, ?_, ?_⟩
  · rw [cycleAt, hnodes]
  · exact fun m hm => hv.subset (houter ▸ List.mem_append_right outer hm)
  · exact hchain.suffix ⟨outer, by rw [← List.append_assoc, houter]⟩

theorem Explained.step (hp : Nodes original pending) (hv : Valid pending p)
    (h : Explained c original pending p) (hstep : Step c pending p q) :
    Explained c original pending q := by
  cases hstep with
  | pass finished => exact ((h.traced rfl).tail finished).explained rfl
  | @cycle s n rest unfinished runs =>
      refine ⟨nofun, fun cycle hcycle => ?_⟩
      cases hcycle
      exact (h.traced rfl).reported hv runs
  | @skip s n rest unfinished idle plain =>
      have hn : n ∈ pending := hv.visits n List.mem_cons_self
      have hsource := hp.source n hn
      rw [← (h.traced rfl).solved.get?_of_not_mem hp.apart hn unfinished, plain] at hsource
      cases hsource
  | @begin s n rest source unfinished idle hasSource =>
      have hn : n ∈ pending := hv.visits n List.mem_cons_self
      have htraced := h.traced rfl
      rw [htraced.solved.get?_of_not_mem hp.apart hn unfinished] at hasSource
      exact (htraced.begin hasSource).explained rfl
  | ask => exact (h.traced rfl).ask.explained rfl
  | answer => exact (h.traced rfl).answer.explained rfl
  | @finish s n v rest =>
      have hmem : n ∈ s.running :=
        hv.running_of_begun (t := .compute n (.done v)) rfl ▸
          List.mem_append_right _ (List.mem_singleton_self n)
      exact ((h.traced rfl).finish (hv.subset hmem) (hv.unfinished n hmem)).explained rfl
  | @fail s n e rest =>
      refine ⟨nofun, fun cycle hcycle => ?_⟩
      obtain ⟨source, -, hproceeds⟩ :=
        (h.traced rfl).proceeds _ List.mem_cons_self _ rfl
      cases hcycle
      exact absurd rfl (neverCyclic_dialogue.proceeds hproceeds cycle)
  | drop => exact ⟨nofun, h.reported⟩
  | leave => exact ⟨nofun, h.reported⟩

/-- Every point of a run is explained. -/
theorem Explained.reaches (hp : Nodes original pending) (hv : Valid pending p)
    (h : Explained c original pending p) (hreach : Reaches c pending p q) :
    Explained c original pending q := by
  induction hreach with
  | refl => exact h
  | tail hreach hstep ih => exact ih.step hp (hv.reaches hreach) hstep

end

/-- If the evaluation of a tree fails with a cycle, then the report starts and ends with the
same node of the tree, and each node of it leads to the next one on the tree as it was at
that point. -/
theorem evaluate_cyclic {c : Context} {tree : Json} {cycle : Cycle} (hd : tree.Distinct)
    (h : evaluate c tree = .error (.cyclic cycle)) :
    ∃ done current n nodes, Solved c tree (collect [] tree) done current ∧
      cycle = .reading (n :: nodes ++ [n]) ∧ n :: nodes ⊆ collect [] tree ∧
      (n :: nodes ++ [n]).IsChain (Leads c tree current (collect [] tree) done) := by
  obtain ⟨r, hreach, -, hresult⟩ := exists_run c tree
  have hexplained : Explained c tree (collect [] tree) r :=
    Explained.reaches (nodes_collect hd) (valid_start tree)
      ((traced_start tree).explained rfl) hreach
  rw [h, Point.result] at hresult
  split at hresult
  next e hfailure =>
    cases hresult
    exact hexplained.reported cycle hfailure
  next hnone => cases hresult

/-- In a ring of two nodes each leads to the other. -/
theorem evaluate_ringTree :
    ringTree.Distinct ∧
      evaluate bareContext ringTree =
        .error (.cyclic (.reading [[.key "a"], [.key "b"], [.key "a"]])) ∧
      ∃ done current, Leads bareContext ringTree current (collect [] ringTree) done
        [.key "a"] [.key "b"] ∧
        Leads bareContext ringTree current (collect [] ringTree) done [.key "b"] [.key "a"] := by
  have hd : ringTree.Distinct := by decide
  have h : evaluate bareContext ringTree =
      .error (.cyclic (.reading [[.key "a"], [.key "b"], [.key "a"]])) := by cbv
  obtain ⟨done, current, n, nodes, -, hreport, -, hchain⟩ := evaluate_cyclic hd h
  rw [← Cycle.reading.inj hreport] at hchain
  obtain ⟨hab, hrest⟩ := List.isChain_cons_cons.mp hchain
  exact ⟨hd, h, done, current, hab, (List.isChain_cons_cons.mp hrest).1⟩

/-- A tree whose node reads the key `length` of the mapping that the node is in. -/
def lengthTree : Json :=
  .object [("a", .object [("length", .number (.integer 1)),
    ("b", .object [("__evaluate__", .string "self.a.length")])])]

/-- The evaluation of `lengthTree` fails with a cycle, although no node of it reads a chain that is
related to a node, whatever the rest of the tree is evaluated to. -/
theorem evaluate_lengthTree :
    evaluate bareContext lengthTree =
        .error (.cyclic (.reading [[.key "a", .key "b"], [.key "a", .key "b"]])) ∧
      ∀ n ∈ collect [] lengthTree, ∀ m ∈ collect [] lengthTree, ∀ source,
        (n.get? lengthTree).bind source? = some source →
          ∀ tree, ∀ r ∈ readsOfSource bareContext.view source tree,
            ¬ KeyPath.Related m r.accessed := by
  refine ⟨by cbv, fun n hn m hm source hsource tree r hr => ?_⟩
  have hnodes : collect [] lengthTree = [[.key "a", .key "b"]] := by decide
  rw [hnodes, List.mem_singleton] at hn hm
  subst hn hm
  obtain rfl : source = "self.a.length" := by
    have hself : (KeyPath.get? [.key "a", .key "b"] lengthTree).bind source? =
      some "self.a.length" := by decide
    exact Option.some.inj (hsource.symm.trans hself)
  have hexpr : Expr.ofText "self.a.length" =
    .ok (.member (.member (.identifier "self") "a") "length") := by cbv
  have haccessed : r.accessed = KeyPath.child [.key "a"] (.key "length") := by
    rw [readsOfSource, hexpr] at hr
    exact accessed_of_mem_access hr
  rw [haccessed]
  simp [KeyPath.Related, KeyPath.child]

end Evaluation

end BundleConfig
