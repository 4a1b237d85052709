import BundleConfig.Proofs.Expression.Parsing
import Mathlib

/-!
# How high trees of expressions are

Where a tree of an expression is high, it is high to the left.  The operators of a level and
the accesses behind a primary are read one after the other on one level of nesting, and each of
them puts what was read before on its left.  A *run* is a way down the tree that only goes to
the left, and nothing bounds it but the text.

A step down that does not go to the left is a *turn*.  Every turn but those to the right side of
an operator and to a condition opens a level of nesting.  The right side of an operator is on a
tighter level than the operator, so that six such turns lead to an operand, and a condition is
no choice itself.  So a level of nesting has eight turns at most, and a tree that is read has
fewer than eight for each level that may be open (`Derivation.turnsBounded`).

Between two turns there is a run.  So the height of a tree is bounded if its runs are, and no
run is higher than the tree (`ofText_height`).
-/

namespace BundleConfig

namespace Expr

/-! ## Ways down a tree -/

/-- What stands on the left: the left side of an operator, or what an access or a call is
behind. -/
def left? : Expr → Option Expr
  | member object _ => some object
  | index object _ => some object
  | call callee _ => some callee
  | binary _ left _ => some left
  | logical _ left _ => some left
  | _ => none

/-- What else stands right below the root. -/
def others : Expr → List Expr
  | array items => items
  | index _ position => [position]
  | call _ arguments => arguments
  | unary _ operand => [operand]
  | binary _ _ right => [right]
  | logical _ _ right => [right]
  | conditional condition consequent alternative => [condition, consequent, alternative]
  | _ => []

mutual

/-- The longest way down a tree, where a step to the left counts `left` and every other step
counts one. -/
def extent (left : Nat) : Expr → Nat
  | literal _ => 0
  | identifier _ => 0
  | array items => extentOfItems left items
  | member object _ => extent left object + left
  | index object position => max (extent left object + left) (extent left position + 1)
  | call callee arguments => max (extent left callee + left) (extentOfItems left arguments)
  | unary _ operand => extent left operand + 1
  | binary _ l r => max (extent left l + left) (extent left r + 1)
  | logical _ l r => max (extent left l + left) (extent left r + 1)
  | conditional condition consequent alternative =>
      max (extent left condition) (max (extent left consequent) (extent left alternative)) + 1
termination_by structural e => e

/-- The longest way down to one of some trees and on from there. -/
def extentOfItems (left : Nat) : List Expr → Nat
  | [] => 0
  | e :: rest => max (extent left e + 1) (extentOfItems left rest)
termination_by structural es => es

end

/-- How many steps the longest way down a tree has. -/
def height (e : Expr) : Nat := e.extent 1

/-- How many turns a way down a tree has at most. -/
def turns (e : Expr) : Nat := e.extent 0

/-- How many steps one can go to the left. -/
def run : Expr → Nat
  | member object _ => run object + 1
  | index object _ => run object + 1
  | call callee _ => run callee + 1
  | binary _ left _ => run left + 1
  | logical _ left _ => run left + 1
  | _ => 0
termination_by structural e => e

/-- An expression is a part of another one. -/
inductive Part (s : Expr) : Expr → Prop
  | self : Part s s
  | left {c e : Expr} (hc : e.left? = some c) (h : Part s c) : Part s e
  | other {c e : Expr} (hc : c ∈ e.others) (h : Part s c) : Part s e

variable {e s c : Expr} {left n : Nat}

theorem extentOfItems_le_iff {es : List Expr} :
    extentOfItems left es ≤ n ↔ ∀ e ∈ es, e.extent left + 1 ≤ n := by
  induction es with
  | nil => simp [extentOfItems]
  | cons e rest ih => rw [extentOfItems, Nat.max_le, ih, List.forall_mem_cons]

/-- A tree is as high as what stands on the left and the other trees below its root allow. -/
theorem extent_le_iff : e.extent left ≤ n ↔
    (∀ c, e.left? = some c → c.extent left + left ≤ n) ∧
      ∀ c ∈ e.others, c.extent left + 1 ≤ n := by
  cases e with
  | conditional condition consequent alternative =>
      simp only [extent, left?, others, reduceCtorEq, false_implies, implies_true, true_and,
        List.forall_mem_cons, List.not_mem_nil, and_true]
      omega
  | _ => simp [extent, left?, others, extentOfItems_le_iff]

theorem extent_left (hc : e.left? = some c) : c.extent left + left ≤ e.extent left :=
  (extent_le_iff.mp (Nat.le_refl _)).1 c hc

theorem extent_other (hc : c ∈ e.others) : c.extent left + 1 ≤ e.extent left :=
  (extent_le_iff.mp (Nat.le_refl _)).2 c hc

theorem run_left (hc : e.left? = some c) : e.run = c.run + 1 := by
  cases e <;> cases hc <;> rfl

theorem run_of_left?_eq_none (h : e.left? = none) : e.run = 0 := by
  cases e <;> first | rfl | cases h

mutual

/-- What goes over from the trees below a root to the whole holds of every tree. -/
theorem induct {P : Expr → Prop}
    (step : ∀ e, (∀ c, e.left? = some c → P c) → (∀ c ∈ e.others, P c) → P e) : ∀ e, P e
  | literal _ => step _ nofun nofun
  | identifier _ => step _ nofun nofun
  | array items => step _ nofun (inductItems step items)
  | member object _ => step _ (fun _ hc => Option.some.inj hc ▸ induct step object) nofun
  | index object position =>
      step _ (fun _ hc => Option.some.inj hc ▸ induct step object)
        (List.forall_mem_singleton.mpr (induct step position))
  | call callee arguments =>
      step _ (fun _ hc => Option.some.inj hc ▸ induct step callee) (inductItems step arguments)
  | unary _ operand => step _ nofun (List.forall_mem_singleton.mpr (induct step operand))
  | binary _ l r =>
      step _ (fun _ hc => Option.some.inj hc ▸ induct step l)
        (List.forall_mem_singleton.mpr (induct step r))
  | logical _ l r =>
      step _ (fun _ hc => Option.some.inj hc ▸ induct step l)
        (List.forall_mem_singleton.mpr (induct step r))
  | conditional condition consequent alternative =>
      step _ nofun (List.forall_mem_cons.mpr ⟨induct step condition,
        List.forall_mem_cons.mpr ⟨induct step consequent,
          List.forall_mem_singleton.mpr (induct step alternative)⟩⟩)
termination_by structural e => e

theorem inductItems {P : Expr → Prop}
    (step : ∀ e, (∀ c, e.left? = some c → P c) → (∀ c ∈ e.others, P c) → P e) :
    ∀ es : List Expr, ∀ e ∈ es, P e
  | [] => List.forall_mem_nil _
  | e :: rest => List.forall_mem_cons.mpr ⟨induct step e, inductItems step rest⟩
termination_by structural es => es

end

/-! ## Runs and turns -/

/-- A run is a way down. -/
theorem run_le_height (e : Expr) : e.run ≤ e.height := by
  induction e using induct with
  | step e hleft hothers =>
      cases hc : e.left? with
      | none =>
          rw [run_of_left?_eq_none hc]
          exact Nat.zero_le _
      | some c =>
          rw [run_left hc]
          have hstep : c.height + 1 ≤ e.height := extent_left hc
          exact Nat.le_trans (Nat.succ_le_succ (hleft c hc)) hstep

/-- A part is no higher than the whole. -/
theorem Part.height_le (h : Part s e) : s.height ≤ e.height := by
  induction h with
  | self => exact Nat.le_refl _
  | left hc _ ih => exact Nat.le_trans ih (Nat.le_trans (Nat.le_add_right _ 1) (extent_left hc))
  | other hc _ ih => exact Nat.le_trans ih (Nat.le_trans (Nat.le_add_right _ 1) (extent_other hc))

/-- A way down is a run and, for each turn, the turn and another run. -/
theorem height_le (e : Expr) (hruns : ∀ s, Part s e → s.run ≤ n) :
    e.height ≤ e.run + e.turns * (n + 1) := by
  induction e using induct with
  | step e hleft hothers =>
      refine extent_le_iff.mpr ⟨fun c hc => ?_, fun c hc => ?_⟩
      · have hheight := hleft c hc fun s hs => hruns s (.left hc hs)
        have hturns : c.turns ≤ e.turns := (extent_le_iff.mp (Nat.le_refl e.turns)).1 c hc
        have hmore := Nat.mul_le_mul_right (n + 1) hturns
        rw [run_left hc]
        unfold height at hheight
        omega
      · have hheight := hothers c hc fun s hs => hruns s (.other hc hs)
        have hrun := hruns c (.other hc .self)
        have hturns : c.turns + 1 ≤ e.turns := extent_other hc
        have hmore := Nat.mul_le_mul_right (n + 1) hturns
        rw [Nat.add_mul, Nat.one_mul] at hmore
        unfold height at hheight
        omega

/-! ## Turns of what is derived -/

/-- The most turns on a way down to one of some trees and on from there. -/
abbrev turnsToItems (es : List Expr) : Nat := extentOfItems 0 es

theorem turnsToItems_cons (e : Expr) (es : List Expr) :
    turnsToItems (e :: es) = max (e.turns + 1) (turnsToItems es) := rfl

theorem turns_index (object position : Expr) :
    (index object position).turns = max object.turns (position.turns + 1) := rfl

theorem turns_call (callee : Expr) (arguments : List Expr) :
    (call callee arguments).turns = max callee.turns (turnsToItems arguments) := rfl

theorem turns_unary (o : UnaryOperator) (operand : Expr) :
    (unary o operand).turns = operand.turns + 1 := rfl

theorem turns_node (o : Operator) (l r : Expr) :
    (o.node l r).turns = max l.turns (r.turns + 1) := by
  cases o <;> rfl

theorem turns_conditional (condition consequent alternative : Expr) :
    (conditional condition consequent alternative).turns =
      max condition.turns (max consequent.turns alternative.turns) + 1 := rfl

theorem turns_ofName (name : String) : (ofName name).turns = 0 := by
  unfold ofName
  repeat' split
  all_goals rfl

namespace Derivation

/-- Eight turns for each level that is open, and those to the right sides of operators that are
left on the way to an operand. -/
def TurnsBounded : {p : Phrase} → Derivation p → Prop
  | .whole, d => turns d.tree + 1 ≤ 8 * d.depth
  | .level n, d => turns d.tree + n ≤ 8 * d.depth + 6
  | .further n, d => ∀ left bound, turns left + n ≤ bound → 8 * d.depth + 6 ≤ bound →
      turns (d.tree left) + n ≤ bound
  | .operand, d => turns d.tree ≤ 8 * d.depth
  | .accesses, d => ∀ object bound, turns object ≤ bound → 8 * d.depth ≤ bound →
      turns (d.tree object) ≤ bound
  | .primary, d => turns d.tree ≤ 8 * d.depth
  | .listing _, d => turnsToItems d.tree ≤ 8 * d.depth
  | .others _, d => turnsToItems d.tree ≤ 8 * d.depth

/-- Every derivation has a bounded number of turns, whatever the length of its runs. -/
theorem turnsBounded {p : Phrase} (d : Derivation p) : d.TurnsBounded := by
  induction d with
  | plain body ih =>
      have hbody : turns body.tree + 0 ≤ 8 * body.depth + 6 := ih
      simp only [TurnsBounded, tree, depth]
      omega
  | choice condition consequent alternative ih₁ ih₂ ih₃ =>
      have hcondition : turns condition.tree + 0 ≤ 8 * condition.depth + 6 := ih₁
      have hconsequent : turns consequent.tree + 1 ≤ 8 * consequent.depth := ih₂
      have halternative : turns alternative.tree + 1 ≤ 8 * alternative.depth := ih₃
      simp only [TurnsBounded, tree, depth, turns_conditional]
      omega
  | chain hn first more ih₁ ih₂ =>
      have hfirst : turns first.tree + (_ + 1) ≤ 8 * first.depth + 6 := ih₁
      simp only [TurnsBounded, tree, depth]
      refine ih₂ first.tree _ ?_ ?_ <;> omega
  | single inner ih =>
      have hinner : turns inner.tree ≤ 8 * inner.depth := ih
      simp only [TurnsBounded, tree, depth]
      omega
  | enough => exact fun left bound hleft _ => hleft
  | another ho right more ih₁ ih₂ =>
      intro left bound hleft hbound
      have hright : turns right.tree + (_ + 1) ≤ 8 * right.depth + 6 := ih₁
      simp only [depth] at hbound
      refine ih₂ _ bound ?_ (by omega)
      rw [turns_node]
      omega
  | leading ho inner ih =>
      have hinner : turns inner.tree ≤ 8 * inner.depth := ih
      simp only [TurnsBounded, tree, depth, turns_unary]
      omega
  | accessed object more ih₁ ih₂ =>
      have hobject : turns object.tree ≤ 8 * object.depth := ih₁
      simp only [TurnsBounded, tree, depth]
      refine ih₂ object.tree _ ?_ ?_ <;> omega
  | unchanged => exact fun object bound hobject _ => hobject
  | member property more ih =>
      exact fun object bound hobject hbound => ih (.member object property) bound hobject hbound
  | index position more ih₁ ih₂ =>
      intro object bound hobject hbound
      have hposition : turns position.tree + 1 ≤ 8 * position.depth := ih₁
      simp only [depth] at hbound
      refine ih₂ _ bound ?_ (by omega)
      rw [turns_index]
      omega
  | call arguments more ih₁ ih₂ =>
      intro object bound hobject hbound
      have harguments : turnsToItems arguments.tree ≤ 8 * arguments.depth := ih₁
      simp only [depth] at hbound
      refine ih₂ _ bound ?_ (by omega)
      rw [turns_call]
      omega
  | number value => exact Nat.zero_le _
  | string text => exact Nat.zero_le _
  | name text =>
      simp only [TurnsBounded, tree, turns_ofName]
      exact Nat.zero_le _
  | parens inner ih =>
      have hinner : turns inner.tree + 1 ≤ 8 * inner.depth := ih
      simp only [TurnsBounded, tree, depth]
      omega
  | array listing ih => exact ih
  | empty => exact Nat.zero_le _
  | items first more ih₁ ih₂ =>
      have hfirst : turns first.tree + 1 ≤ 8 * first.depth := ih₁
      have hmore : turnsToItems more.tree ≤ 8 * more.depth := ih₂
      simp only [TurnsBounded, tree, depth, turnsToItems_cons]
      omega
  | close => exact Nat.zero_le _
  | comma next more ih₁ ih₂ =>
      have hnext : turns next.tree + 1 ≤ 8 * next.depth := ih₁
      have hmore : turnsToItems more.tree ≤ 8 * more.depth := ih₂
      simp only [TurnsBounded, tree, depth, turnsToItems_cons]
      omega

end Derivation

/-! ## What is read -/

/-- A text is read as a tree exactly when the tree is what a derivation of its tokens denotes
in which no more than `maxNesting` levels are open at once. -/
theorem ofText_eq_ok_iff {source : String} : ofText source = .ok e ↔
    ∃ d : Derivation .whole, Token.ofText source = .ok d.tokens ∧ d.depth ≤ maxNesting ∧
      d.tree = e := by
  constructor
  · intro h
    obtain ⟨ts, hts, h⟩ := bind_eq_ok.mp h
    obtain ⟨⟨e', rest⟩, hwhole, h⟩ := bind_eq_ok.mp h
    cases rest with
    | cons t rest => cases h
    | nil =>
        obtain rfl := Except.ok.inj h
        obtain ⟨d, hd, htree⟩ := (derives _).whole hwhole
        exact ⟨d, by rw [hts, ← hd.tokens, List.append_nil], hd.depth, htree⟩
  · rintro ⟨d, hts, hdepth, rfl⟩
    have hwhole := d.reads (Expr.fuel d.tokens) maxNesting []
      (Nat.add_le_add_left (by decide) _) hdepth stops_nil
    rw [List.append_nil] at hwhole
    exact bind_eq_ok.mpr ⟨_, hts, bind_eq_ok.mpr ⟨_, hwhole, rfl⟩⟩

/-- The height of a tree that was read is bounded by its runs alone.  It has a bounded number of
turns, so that a bound for all of its runs gives a bound for the tree, and no run in it is
higher than it is. -/
theorem ofText_height {source : String} (h : ofText source = .ok e) :
    e.turns < 8 * maxNesting ∧
      (∀ n, (∀ s, Part s e → s.run ≤ n) → e.height < 8 * maxNesting * (n + 1)) ∧
      ∀ s, Part s e → s.run ≤ e.height := by
  obtain ⟨d, -, hdepth, rfl⟩ := ofText_eq_ok_iff.mp h
  have hbounded : turns d.tree + 1 ≤ 8 * d.depth := d.turnsBounded
  have hturns : turns d.tree + 1 ≤ 8 * maxNesting :=
    Nat.le_trans hbounded (Nat.mul_le_mul_left 8 hdepth)
  refine ⟨hturns, fun n hruns => ?_, fun s hs => ?_⟩
  · have hrun := hruns _ .self
    calc height d.tree ≤ run d.tree + turns d.tree * (n + 1) := height_le _ hruns
      _ < (n + 1) + turns d.tree * (n + 1) := by omega
      _ = (turns d.tree + 1) * (n + 1) := by rw [Nat.add_mul, Nat.one_mul, Nat.add_comm]
      _ ≤ 8 * maxNesting * (n + 1) := Nat.mul_le_mul_right _ hturns
  · exact Nat.le_trans (run_le_height s) hs.height_le

/-- The tree of a choice whose condition is a sum. -/
def choiceTree : Expr :=
  .conditional
    (.binary .add
      (.binary .add (.index (.member (.identifier "a") "b") (.identifier "c"))
        (.binary .multiply (.identifier "x") (.identifier "y")))
      (.identifier "z"))
    (.unary .not (.call (.identifier "f") [.identifier "g"])) (.array [.identifier "h"])

/-- The tree has a turn to the condition and a run of four steps there. -/
theorem ofText_choiceTree :
    ofText "a.b[c]+x*y+z?!f(g):[h]" = .ok choiceTree ∧ choiceTree.turns < 8 * maxNesting ∧
      (∀ s, Part s choiceTree → s.run ≤ 5) ∧ choiceTree.height < 8 * maxNesting * (5 + 1) := by
  have h : ofText "a.b[c]+x*y+z?!f(g):[h]" = .ok choiceTree := by cbv
  obtain ⟨hturns, hheight, hruns⟩ := ofText_height h
  exact ⟨h, hturns, hruns, hheight 5 hruns⟩

end Expr

end BundleConfig
