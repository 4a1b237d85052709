import BundleConfig.Proofs.Evaluation.Order
import Mathlib.Logic.Relation

/-!
# Evaluation step by step

`settle` evaluates a node in one go, and what happens on the way stays inside.  A *run*
takes the evaluation apart into steps.  A point of a run has the state and a stack of
*tasks*: nodes to visit, and expressions that go on or that wait for an answer.

The stack tells which nodes are running, and from this everything about them follows
(`Valid`).  A node begins only when it is neither finished nor running, and no step takes
it back, so it begins at most once.

*Depth.*  The running nodes are distinct nodes of the tree.  Therefore `settle` never
comes to the end of its count, and a run ends exactly as `evaluate` does
(`exists_run`).  There is no other run, since `Step` is deterministic.

*Errors.*  An expression that fails leaves its tasks on the stack.  They are given up one
by one, and a node that is given up is no longer running.
-/

namespace BundleConfig

namespace Evaluation

open Expression (dialogue Dialogue Run)

/-! ## Runs -/

/-- What is left to do in a run. -/
inductive Task
  /-- To evaluate a node, unless it has its value. -/
  | visit (node : KeyPath)
  /-- To go on with the expression of a node. -/
  | compute (node : KeyPath) (rest : Dialogue Json)
  /-- To answer the question that the expression of a node asked for a path. -/
  | answer (node path : KeyPath) (next : Json → Dialogue Json)

/-- The node of a task whose evaluation has begun. -/
def Task.begun? : Task → Option KeyPath
  | visit _ => none
  | compute n _ => some n
  | answer n _ _ => some n

/-- A point of a run. -/
structure Point where
  /-- The state. -/
  state : State
  /-- What is left to do, the next task first. -/
  tasks : List Task
  /-- The error, once there is one. -/
  failure : Option ConfigError

/-- The state in which the evaluation of the last running node is over. -/
def State.leave (s : State) : State := { s with running := s.running.dropLast }

section

variable (c : Context) (pending : List KeyPath)

/-- One step of the evaluation of a tree with the nodes `pending`. -/
inductive Step : Point → Point → Prop
  /-- A finished node is passed. -/
  | pass {s : State} {n : KeyPath} {rest : List Task} (finished : n ∈ s.finished) :
      Step ⟨s, .visit n :: rest, none⟩ ⟨s, rest, none⟩
  /-- A running node is a cycle. -/
  | cycle {s : State} {n : KeyPath} {rest : List Task} (unfinished : n ∉ s.finished)
      (runs : n ∈ s.running) :
      Step ⟨s, .visit n :: rest, none⟩
        ⟨s, .visit n :: rest, some (.cyclic (.reading (cycleAt s.running n)))⟩
  /-- A node without an expression is passed. -/
  | skip {s : State} {n : KeyPath} {rest : List Task} (unfinished : n ∉ s.finished)
      (idle : n ∉ s.running) (plain : (n.get? s.tree).bind source? = none) :
      Step ⟨s, .visit n :: rest, none⟩ ⟨s, rest, none⟩
  /-- Every other node begins. -/
  | begin {s : State} {n : KeyPath} {rest : List Task} {source : String}
      (unfinished : n ∉ s.finished) (idle : n ∉ s.running)
      (hasSource : (n.get? s.tree).bind source? = some source) :
      Step ⟨s, .visit n :: rest, none⟩
        ⟨s.begin n, .compute n (dialogue c.view source) :: rest, none⟩
  /-- A question waits until the nodes it depends on were visited. -/
  | ask {s : State} {n path : KeyPath} {next : Json → Dialogue Json} {rest : List Task} :
      Step ⟨s, .compute n (.asks path next) :: rest, none⟩
        ⟨s, (related pending path).map .visit ++ .answer n path next :: rest, none⟩
  /-- Then it is answered from the tree. -/
  | answer {s : State} {n path : KeyPath} {next : Json → Dialogue Json} {rest : List Task} :
      Step ⟨s, .answer n path next :: rest, none⟩
        ⟨s, .compute n (next (Dialogue.nodeOf s.tree path)) :: rest, none⟩
  /-- A result is the value of its node. -/
  | finish {s : State} {n : KeyPath} {v : Json} {rest : List Task} :
      Step ⟨s, .compute n (.done v) :: rest, none⟩ ⟨s.finish n v, rest, none⟩
  /-- An error ends the evaluation. -/
  | fail {s : State} {n : KeyPath} {e : ConfigError} {rest : List Task} :
      Step ⟨s, .compute n (.failed e) :: rest, none⟩ ⟨s, .compute n (.failed e) :: rest, some e⟩
  /-- After an error no further node is visited. -/
  | drop {s : State} {n : KeyPath} {rest : List Task} {e : ConfigError} :
      Step ⟨s, .visit n :: rest, some e⟩ ⟨s, rest, some e⟩
  /-- After an error the running nodes are given up, the last one first. -/
  | leave {s : State} {t : Task} {n : KeyPath} {rest : List Task} {e : ConfigError}
      (begun : t.begun? = some n) :
      Step ⟨s, t :: rest, some e⟩ ⟨s.leave, rest, some e⟩

/-- Some steps lead from the first point to the second. -/
abbrev Reaches : Point → Point → Prop := Relation.ReflTransGen (Step c pending)

end

/-- The first point of the evaluation of a tree. -/
def start (tree : Json) : Point := ⟨⟨tree, [], []⟩, (collect [] tree).map .visit, none⟩

/-- What a point without tasks has come to. -/
def Point.result (p : Point) : Except ConfigError Json :=
  match p.failure with
  | some e => .error e
  | none => .ok p.state.tree

/-- The step from the first point to the second begins the evaluation of a node. -/
def Begins (p q : Point) (n : KeyPath) : Prop := q.state.running = p.state.running ++ [n]

section

variable {c : Context} {pending : List KeyPath} {p q : Point}

/-- There is at most one next point. -/
theorem Step.unique {r : Point} (h : Step c pending p q) (h' : Step c pending p r) : q = r := by
  cases h <;> cases h' <;> simp_all [Task.begun?]

/-- No step leads on from a point without tasks. -/
theorem Reaches.eq_of_tasks_eq_nil (h : Reaches c pending p q) (hp : p.tasks = []) : q = p := by
  induction h with
  | refl => rfl
  | tail _ hstep ih =>
      rw [ih] at hstep
      cases hstep <;> cases hp

/-- All points of a run that ends lead to its end. -/
theorem Reaches.of_end {r : Point} (h : Reaches c pending p r) (hr : r.tasks = [])
    (h' : Reaches c pending p q) : Reaches c pending q r := by
  have hunique : Relator.RightUnique (Step c pending) := fun _ _ _ h h' => h.unique h'
  rcases Relation.ReflTransGen.total_of_right_unique hunique h h' with hrq | hqr
  · rw [Reaches.eq_of_tasks_eq_nil hrq hr]
  · exact hqr

/-! ## The running nodes -/

/-- The nodes of the tasks that have begun, outermost first. -/
def begunBy (tasks : List Task) : List KeyPath := (tasks.filterMap Task.begun?).reverse

@[simp] theorem begunBy_visits (nodes : List KeyPath) (rest : List Task) :
    begunBy (nodes.map .visit ++ rest) = begunBy rest := by
  induction nodes with
  | nil => rfl
  | cons n nodes ih => exact ih

theorem begunBy_of_begun {t : Task} {n : KeyPath} (h : t.begun? = some n) (rest : List Task) :
    begunBy (t :: rest) = begunBy rest ++ [n] := by
  rw [begunBy, List.filterMap_cons_some h, List.reverse_cons]
  rfl

@[simp] theorem begunBy_compute (n : KeyPath) (d : Dialogue Json) (rest : List Task) :
    begunBy (.compute n d :: rest) = begunBy rest ++ [n] := begunBy_of_begun rfl rest

@[simp] theorem begunBy_answer (n path : KeyPath) (next : Json → Dialogue Json)
    (rest : List Task) : begunBy (.answer n path next :: rest) = begunBy rest ++ [n] :=
  begunBy_of_begun rfl rest

/-- What holds at every point of a run. -/
structure Valid (pending : List KeyPath) (p : Point) : Prop where
  /-- The running nodes are those of the tasks that have begun. -/
  running : p.state.running = begunBy p.tasks
  /-- No node runs twice at a time. -/
  nodup : p.state.running.Nodup
  /-- Only nodes of the tree run. -/
  subset : p.state.running ⊆ pending
  /-- No finished node runs. -/
  unfinished : ∀ n ∈ p.state.running, n ∉ p.state.finished
  /-- Only nodes of the tree are visited. -/
  visits : ∀ n, Task.visit n ∈ p.tasks → n ∈ pending

theorem Valid.length_le (h : Valid pending p) : p.state.running.length ≤ pending.length :=
  h.nodup.length_le_of_subset h.subset

theorem valid_start (tree : Json) : Valid (collect [] tree) (start tree) where
  running := by
    rw [start, ← List.append_nil (List.map _ _), begunBy_visits]
    rfl
  nodup := List.nodup_nil
  subset := List.nil_subset _
  unfinished := List.forall_mem_nil _
  visits := fun n hn => by
    obtain ⟨m, hm, heq⟩ := List.mem_map.mp hn
    cases heq
    exact hm

/-- Where the running nodes and the finished ones stay, only the new tasks matter. -/
theorem Valid.with_tasks {s : State} {tasks tasks' : List Task}
    {failure failure' : Option ConfigError} (h : Valid pending ⟨s, tasks, failure⟩)
    (hbegun : begunBy tasks' = begunBy tasks)
    (hvisits : ∀ n, Task.visit n ∈ tasks' → n ∈ pending) :
    Valid pending ⟨s, tasks', failure'⟩ :=
  ⟨h.running.trans hbegun.symm, h.nodup, h.subset, h.unfinished, hvisits⟩

theorem Valid.visits_rest {s : State} {t : Task} {rest : List Task}
    {failure : Option ConfigError} (h : Valid pending ⟨s, t :: rest, failure⟩) :
    ∀ m, Task.visit m ∈ rest → m ∈ pending :=
  fun m hm => h.visits m (List.mem_cons_of_mem _ hm)

/-- A task that has begun is no further visit. -/
theorem Valid.visits_begun {s : State} {t t' : Task} {n : KeyPath} {rest : List Task}
    {failure : Option ConfigError} (h : Valid pending ⟨s, t :: rest, failure⟩)
    (ht' : t'.begun? = some n) : ∀ m, Task.visit m ∈ t' :: rest → m ∈ pending := by
  intro m hm
  rcases List.mem_cons.mp hm with rfl | hm
  · cases ht'
  · exact h.visits_rest m hm

/-- The last running node is the one of the first task, if that has begun. -/
theorem Valid.running_of_begun {s : State} {t : Task} {n : KeyPath} {rest : List Task}
    {failure : Option ConfigError} (h : Valid pending ⟨s, t :: rest, failure⟩)
    (ht : t.begun? = some n) : s.running = begunBy rest ++ [n] :=
  h.running.trans (begunBy_of_begun ht rest)

/-- The other nodes of the stack run on when the evaluation of the last one is over, with
or without a value. -/
theorem Valid.leave {s u : State} {t : Task} {n : KeyPath} {rest : List Task}
    {failure failure' : Option ConfigError} (h : Valid pending ⟨s, t :: rest, failure⟩)
    (ht : t.begun? = some n) (hrunning : u.running = s.running.dropLast)
    (hfinished : ∀ m ∈ u.finished, m ∈ s.finished ∨ m = n) :
    Valid pending ⟨u, rest, failure'⟩ := by
  have hlast := h.running_of_begun ht
  have hbegun : u.running = begunBy rest := by
    rw [hrunning, hlast, List.dropLast_concat]
  have hsub : ∀ m ∈ begunBy rest, m ∈ s.running := fun m hm =>
    hlast ▸ List.mem_append_left _ hm
  have hnodup := h.nodup
  rw [hlast, List.nodup_append] at hnodup
  refine ⟨hbegun, hbegun ▸ hnodup.1, ?_, ?_, h.visits_rest⟩
  · show u.running ⊆ pending
    rw [hbegun]
    exact fun m hm => h.subset (hsub m hm)
  · show ∀ m ∈ u.running, m ∉ u.finished
    rw [hbegun]
    intro m hm hmem
    rcases hfinished m hmem with hold | rfl
    · exact h.unfinished m (hsub m hm) hold
    · exact hnodup.2.2 m hm m (List.mem_singleton_self m) rfl

/-- Every step keeps a point valid. -/
theorem Valid.step (h : Valid pending p) (hstep : Step c pending p q) : Valid pending q := by
  cases hstep with
  | pass => exact h.with_tasks rfl h.visits_rest
  | cycle => exact h.with_tasks rfl h.visits
  | skip => exact h.with_tasks rfl h.visits_rest
  | @begin s n rest source unfinished idle hasSource =>
      have hn : n ∈ pending := h.visits n List.mem_cons_self
      constructor
      · show s.running ++ [n] = begunBy _
        rw [begunBy_compute]
        exact congrArg (· ++ [n]) h.running
      · exact List.nodup_append.mpr ⟨h.nodup, List.nodup_singleton n, fun m hm k hk heq =>
          idle (List.mem_singleton.mp hk ▸ heq ▸ hm)⟩
      · exact List.append_subset.mpr ⟨h.subset, List.cons_subset.mpr ⟨hn, List.nil_subset _⟩⟩
      · intro m hm
        rcases List.mem_append.mp hm with hm | hm
        · exact h.unfinished m hm
        · exact List.mem_singleton.mp hm ▸ unfinished
      · exact h.visits_begun rfl
  | @ask s n path next rest =>
      refine h.with_tasks ?_ fun m hm => ?_
      · rw [begunBy_visits, begunBy_answer, begunBy_compute]
      rcases List.mem_append.mp hm with hm | hm
      · obtain ⟨k, hk, heq⟩ := List.mem_map.mp hm
        cases heq
        exact (mem_related.mp hk).1
      · exact h.visits_begun rfl m hm
  | @answer s n path next rest =>
      refine h.with_tasks ?_ (h.visits_begun rfl)
      rw [begunBy_answer, begunBy_compute]
  | @finish s n v rest =>
      refine h.leave rfl rfl fun m hm => ?_
      exact (List.mem_append.mp hm).imp_right List.mem_singleton.mp
  | fail => exact h.with_tasks rfl h.visits
  | drop => exact h.with_tasks rfl h.visits_rest
  | leave begun => exact h.leave begun rfl fun m hm => .inl hm

/-- Every point of a run is valid. -/
theorem Valid.reaches (h : Valid pending p) (hreach : Reaches c pending p q) :
    Valid pending q := by
  induction hreach with
  | refl => exact h
  | tail _ hstep ih => exact ih.step hstep

/-- The running nodes are determined by the tasks that have begun. -/
theorem Valid.running_eq (h : Valid pending p) (hreach : Reaches c pending p q)
    (hbegun : begunBy q.tasks = begunBy p.tasks) : q.state.running = p.state.running := by
  rw [(h.reaches hreach).running, hbegun, h.running]

/-! ## Each node begins once -/

/-- The node is finished or running. -/
def Point.Knows (p : Point) (n : KeyPath) : Prop := n ∈ p.state.finished ∨ n ∈ p.state.running

/-- A step that begins a node is not an error and comes to a node that was not known. -/
theorem Step.begins {n : KeyPath} (hstep : Step c pending p q) (h : Begins p q n) :
    p.failure = none ∧ q.failure = none ∧ ¬ p.Knows n ∧ q.Knows n := by
  have hlength := congrArg List.length h
  rw [List.length_append, List.length_singleton] at hlength
  cases hstep with
  | begin unfinished idle hasSource =>
      have hn := List.append_cancel_left h
      cases hn
      exact ⟨rfl, rfl, fun hknows => hknows.elim unfinished idle,
        .inr (List.mem_append_right _ (List.mem_singleton_self _))⟩
  | finish => simp [State.finish] at hlength
  | leave => simp [State.leave] at hlength
  | _ => exact absurd hlength (by simp)

/-- A known node stays known as long as there is no error. -/
theorem Step.knows {n : KeyPath} (hstep : Step c pending p q) (hp : Valid pending p)
    (hq : q.failure = none) (h : p.Knows n) : q.Knows n := by
  cases hstep with
  | begin => exact h.imp_right (List.mem_append_left _)
  | @finish s m v rest =>
      rcases h with h | h
      · exact .inl (List.mem_append_left _ h)
      · have hlast : s.running = begunBy rest ++ [m] := hp.running_of_begun rfl
        rcases List.mem_append.mp (hlast ▸ h) with h | h
        · refine .inr ?_
          show n ∈ s.running.dropLast
          rw [hlast, List.dropLast_concat]
          exact h
        · exact .inl (List.mem_append_right _ h)
  | cycle | fail | drop | leave => cases hq
  | _ => exact h

/-- An error stays. -/
theorem Step.failure {e : ConfigError} (hstep : Step c pending p q) (h : p.failure = some e) :
    q.failure = some e := by
  cases hstep <;> first | exact h | cases h

theorem Reaches.failure_eq_none (h : Reaches c pending p q) (hq : q.failure = none) :
    p.failure = none := by
  induction h with
  | refl => exact hq
  | @tail u r _ hstep ih =>
      cases hu : u.failure with
      | none => exact ih hu
      | some e =>
          rw [hstep.failure hu] at hq
          cases hq

theorem Reaches.knows {n : KeyPath} (h : Reaches c pending p q) (hp : Valid pending p)
    (hq : q.failure = none) (hknows : p.Knows n) : q.Knows n := by
  induction h with
  | refl => exact hknows
  | @tail u r hreach hstep ih =>
      have hu : u.failure = none := Reaches.failure_eq_none (.single hstep) hq
      exact hstep.knows (hp.reaches hreach) hq (ih hu)

/-- What has begun does not begin again. -/
theorem Valid.begins_once {n : KeyPath} {p' q' : Point} (h : Valid pending p)
    (hstep : Step c pending p p') (hbegins : Begins p p' n) (hreach : Reaches c pending p' q)
    (hstep' : Step c pending q q') : ¬ Begins q q' n := by
  intro hagain
  obtain ⟨-, -, -, hknows⟩ := hstep.begins hbegins
  obtain ⟨hq, -, hfresh, -⟩ := hstep'.begins hagain
  exact hfresh (hreach.knows (h.step hstep) hq hknows)

/-! ## A run ends as the evaluation does -/

/-- The run goes on from a point to where a result leads, or to the same error. -/
def Arrives (c : Context) (pending : List KeyPath) {α : Type} (p : Point)
    (goal : α → Point) : Except ConfigError α → Prop
  | .ok a => Reaches c pending p (goal a)
  | .error e => ∃ q, Reaches c pending p q ∧ q.failure = some e

variable {α β : Type} {goal : α → Point}

theorem Reaches.arrives {x : Except ConfigError α} (h : Reaches c pending p q)
    (h' : Arrives c pending q goal x) : Arrives c pending p goal x := by
  cases x with
  | ok a => exact Relation.ReflTransGen.trans h h'
  | error e =>
      obtain ⟨r, hr, hfailure⟩ := h'
      exact ⟨r, h.trans hr, hfailure⟩

/-- One step after the other arrives if both do. -/
theorem Arrives.bind {x : Except ConfigError α} {f : α → Except ConfigError β}
    {goal' : β → Point} (h : Arrives c pending p goal x)
    (h' : ∀ a, Reaches c pending p (goal a) → Arrives c pending (goal a) goal' (f a)) :
    Arrives c pending p goal' (x >>= f) := by
  cases x with
  | ok a => exact Reaches.arrives h (h' a h)
  | error e => exact h

/-- The point at which a list of nodes is to be visited. -/
def visiting (s : State) (nodes : List KeyPath) (rest : List Task) : Point :=
  ⟨s, nodes.map .visit ++ rest, none⟩

/-- The point at which an expression goes on. -/
def computing (s : State) (n : KeyPath) (d : Dialogue Json) (rest : List Task) : Point :=
  ⟨s, .compute n d :: rest, none⟩

/-- A run visits a node as `settle` does at this depth, if the depth suffices. -/
def Simulates (c : Context) (pending : List KeyPath) (fuel : Nat) : Prop :=
  ∀ (n : KeyPath) (s : State) (rest : List Task), Valid pending (visiting s [n] rest) →
    pending.length < fuel + s.running.length →
      Arrives c pending (visiting s [n] rest) (fun out => visiting out.2 [] rest)
        (settle c pending fuel n s)

variable {fuel : Nat}

theorem Simulates.forM (h : Simulates c pending fuel) {nodes : List KeyPath} {s : State}
    {rest : List Task} (hv : Valid pending (visiting s nodes rest))
    (hfuel : pending.length < fuel + s.running.length) :
    Arrives c pending (visiting s nodes rest) (fun out => visiting out.2 [] rest)
      (nodes.forM (settle c pending fuel) s) := by
  induction nodes generalizing s with
  | nil => exact Relation.ReflTransGen.refl
  | cons n nodes ih =>
      show Arrives c pending _ _ ((settle c pending fuel n s).bind _)
      refine Arrives.bind (h n s (nodes.map Task.visit ++ rest) hv hfuel) fun out hreach => ?_
      have hrunning : out.2.running = s.running := hv.running_eq hreach rfl
      exact ih (hv.reaches hreach) (hrunning ▸ hfuel)

/-- A run answers a question as it is read. -/
theorem Simulates.readSelf (h : Simulates c pending fuel) {n path : KeyPath}
    {next : Json → Dialogue Json} {s : State} {rest : List Task}
    (hv : Valid pending (computing s n (.asks path next) rest))
    (hfuel : pending.length < fuel + s.running.length) :
    Arrives c pending (computing s n (.asks path next) rest)
      (fun out => computing out.2 n (next out.1) rest)
      (readSelf (settle c pending fuel) pending path s) := by
  have hask : Reaches c pending (computing s n (.asks path next) rest)
      (visiting s (related pending path) (.answer n path next :: rest)) := .single .ask
  refine hask.arrives ?_
  show Arrives c pending _ _ (((related pending path).forM (settle c pending fuel) s).bind
    fun out => .ok (Dialogue.nodeOf out.2.tree path, out.2))
  refine Arrives.bind (h.forM (hv.reaches hask) hfuel) fun out hreach => ?_
  exact Relation.ReflTransGen.single .answer

/-- A run computes an expression as its dialogue does. -/
theorem Simulates.run (h : Simulates c pending fuel) {n : KeyPath} {d : Dialogue Json} {s : State}
    {rest : List Task} (hv : Valid pending (computing s n d rest))
    (hfuel : pending.length < fuel + s.running.length) :
    Arrives c pending (computing s n d rest) (fun out => computing out.2 n (.done out.1) rest)
      (d.run (Evaluation.readSelf (settle c pending fuel) pending) s) := by
  induction d generalizing s with
  | done v => exact Relation.ReflTransGen.refl
  | failed e => exact ⟨_, .single .fail, rfl⟩
  | asks path next ih =>
      refine Arrives.bind (h.readSelf hv hfuel) fun out hreach => ?_
      have hrunning : out.2.running = s.running := by
        refine hv.running_eq hreach ?_
        exact (begunBy_compute _ _ _).trans (begunBy_compute _ _ _).symm
      exact ih out.1 (hv.reaches hreach) (hrunning ▸ hfuel)

theorem settle_of_plain (fuel : Nat) {n : KeyPath} {s : State} (hf : n ∉ s.finished)
    (hr : n ∉ s.running) (h : (n.get? s.tree).bind source? = none) :
    settle c pending (fuel + 1) n s = .ok ((), s) := by
  have hrun : (settle c pending (fuel + 1) n).run s = pure ((), s) := by
    simp [settle, hf, hr, h]
  exact hrun

/-- A run visits a node as `settle` does. -/
theorem simulates : ∀ fuel, Simulates c pending fuel
  | 0, n, s, rest, hv, hfuel => by
      have hlength : s.running.length ≤ pending.length := hv.length_le
      omega
  | fuel + 1, n, s, rest, hv, hfuel => by
      by_cases hf : n ∈ s.finished
      · rw [settle_of_finished fuel hf]
        exact Relation.ReflTransGen.single (.pass hf)
      by_cases hr : n ∈ s.running
      · rw [settle_of_running fuel hf hr]
        exact ⟨_, .single (.cycle hf hr), rfl⟩
      cases hsource : (n.get? s.tree).bind source? with
      | none =>
          rw [settle_of_plain fuel hf hr hsource]
          exact Relation.ReflTransGen.single (.skip hf hr hsource)
      | some source =>
          rw [settle_of_source fuel hf hr hsource]
          have hbegin : Reaches c pending (visiting s [n] rest)
              (computing (s.begin n) n (dialogue c.view source) rest) :=
            .single (.begin hf hr hsource)
          have hdepth : pending.length < fuel + (s.begin n).running.length := by
            show _ < fuel + (s.running ++ [n]).length
            rw [List.length_append, List.length_singleton]
            omega
          refine hbegin.arrives ?_
          have harrives := Simulates.run (simulates fuel) (hv.reaches hbegin) hdepth
          cases hrun : (dialogue c.view source).run (readSelf (settle c pending fuel) pending)
              (s.begin n) with
          | error e =>
              rw [hrun] at harrives
              exact harrives
          | ok out =>
              rw [hrun] at harrives
              exact Relation.ReflTransGen.tail harrives .finish

/-- After an error all tasks are given up. -/
theorem exists_reaches_end (tasks : List Task) (s : State) (e : ConfigError) :
    ∃ r, Reaches c pending ⟨s, tasks, some e⟩ r ∧ r.tasks = [] ∧ r.failure = some e := by
  induction tasks generalizing s with
  | nil => exact ⟨_, .refl, rfl, rfl⟩
  | cons t rest ih =>
      cases ht : t.begun? with
      | none =>
          cases t with
          | visit n =>
              obtain ⟨r, hreach, hr⟩ := ih s
              exact ⟨r, .head .drop hreach, hr⟩
          | compute | answer => cases ht
      | some n =>
          obtain ⟨r, hreach, hr⟩ := ih s.leave
          exact ⟨r, .head (.leave ht) hreach, hr⟩

/-- The run of a tree ends with what the tree is evaluated to. -/
theorem exists_run (c : Context) (tree : Json) :
    ∃ r, Reaches c (collect [] tree) (start tree) r ∧ r.tasks = [] ∧
      r.result = evaluate c tree := by
  have hstart : start tree = visiting ⟨tree, [], []⟩ (collect [] tree) [] := by
    rw [start, visiting, List.append_nil]
  have hvalid : Valid (collect [] tree) (visiting ⟨tree, [], []⟩ (collect [] tree) []) :=
    hstart ▸ valid_start tree
  have harrives := Simulates.forM (c := c) (simulates _) hvalid
    (Nat.lt_succ_self (collect [] tree).length)
  have hevaluate : evaluate c tree =
      ((collect [] tree).forM (settle c (collect [] tree) ((collect [] tree).length + 1))
        ⟨tree, [], []⟩).bind fun out => .ok out.2.tree := rfl
  rw [hstart, hevaluate]
  cases hrun : (collect [] tree).forM (settle c (collect [] tree) ((collect [] tree).length + 1))
      ⟨tree, [], []⟩ with
  | ok out =>
      rw [hrun] at harrives
      exact ⟨_, harrives, rfl, rfl⟩
  | error e =>
      rw [hrun] at harrives
      obtain ⟨⟨s, tasks, failure⟩, hreach, hfailure⟩ := harrives
      obtain rfl : failure = some e := hfailure
      obtain ⟨r, hend, htasks, hr⟩ := exists_reaches_end (c := c) tasks s e
      refine ⟨r, hreach.trans hend, htasks, ?_⟩
      rw [Point.result, hr]
      rfl

end

/-- At every point of the run of a tree the running nodes are distinct nodes of the tree
that are not finished, and none of them is above another, so they are never more than
there are nodes.  No node begins twice.  The run comes to an end, from every point, and
there it has what the tree is evaluated to. -/
theorem run_wellFounded {c : Context} {tree : Json} (hd : tree.Distinct) :
    (∀ p, Reaches c (collect [] tree) (start tree) p →
      p.state.running.Nodup ∧ p.state.running.length ≤ (collect [] tree).length ∧
        (∀ n ∈ p.state.running, n ∈ collect [] tree ∧ n ∉ p.state.finished) ∧
        ∀ m ∈ p.state.running, ∀ n ∈ p.state.running, m <+: n → m = n) ∧
      (∀ n p p' q q', Reaches c (collect [] tree) (start tree) p →
        Step c (collect [] tree) p p' → Begins p p' n → Reaches c (collect [] tree) p' q →
          Step c (collect [] tree) q q' → ¬ Begins q q' n) ∧
      ∃ r, r.tasks = [] ∧ r.result = evaluate c tree ∧
        ∀ q, Reaches c (collect [] tree) (start tree) q → Reaches c (collect [] tree) q r := by
  refine ⟨fun p hp => ?_, fun n p p' q q' hp hstep hbegins hreach hstep' => ?_, ?_⟩
  · have hvalid := (valid_start tree).reaches hp
    refine ⟨hvalid.nodup, hvalid.length_le,
      fun n hn => ⟨hvalid.subset hn, hvalid.unfinished n hn⟩, fun m hm n hn hprefix => ?_⟩
    by_contra hne
    exact (nodes_collect hd).apart m (hvalid.subset hm) n (hvalid.subset hn) hne (.inl hprefix)
  · exact ((valid_start tree).reaches hp).begins_once hstep hbegins hreach hstep'
  · obtain ⟨r, hreach, htasks, hresult⟩ := exists_run c tree
    exact ⟨r, htasks, hresult, fun q hq => hreach.of_end htasks hq⟩

/-- A tree of two nodes that read each other. -/
def ringTree : Json :=
  .object [("a", .object [("__evaluate__", .string "self.b")]),
    ("b", .object [("__evaluate__", .string "self.a")])]

/-- The run of two nodes that read each other ends with an error, and never more than two nodes
run. -/
theorem run_ringTree :
    ringTree.Distinct ∧ ∃ r, r.tasks = [] ∧
      r.result = .error (.cyclic (.reading [[.key "a"], [.key "b"], [.key "a"]])) ∧
      ∀ p, Reaches bareContext (collect [] ringTree) (start ringTree) p →
        p.state.running.length ≤ 2 ∧ Reaches bareContext (collect [] ringTree) p r := by
  have hd : ringTree.Distinct := by decide
  have hring : evaluate bareContext ringTree =
      .error (.cyclic (.reading [[.key "a"], [.key "b"], [.key "a"]])) := by cbv
  obtain ⟨hpoints, -, r, htasks, hresult, hend⟩ := run_wellFounded (c := bareContext) hd
  exact ⟨hd, r, htasks, hresult.trans hring, fun p hp => ⟨(hpoints p hp).2.1, hend p hp⟩⟩

end Evaluation

end BundleConfig
