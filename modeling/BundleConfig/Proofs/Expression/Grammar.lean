import BundleConfig.Expression.Parser

/-!
# The grammar of expressions

A *phrase* is what a part of an expression has to be, and a *derivation* of it is a
way to build it by the rules of the grammar.

*Operators.*  Operators between operands are on six levels, from loose to tight.
What is on a level is an operand of the next tighter level, followed by any number
of operators of the level with an operand of the next tighter one each.  They group
to the left: `further` says what becomes of the tree on the left.

*Depth.*  A whole expression and an operator before an operand open a level of
nesting each, which is open as long as the phrase goes on.  `Derivation.depth` is
the greatest number of levels that are open at once.

*Uniqueness.*  A phrase ends before a token that cannot continue it, as `Stops`
says.  Two derivations of one phrase at the start of the same tokens, both of which
stop, are one derivation (`Derivation.unique`).
-/

namespace BundleConfig

namespace Expr

/-! ## Phrases -/

/-- The operators of a level with their marks, from the loosest level to the tightest. -/
def operators : (level : Nat) → List (Mark × Operator)
  | 0 => [(.or, .logical .or)]
  | 1 => [(.and, .logical .and)]
  | 2 => [(.equal, .binary .equal), (.strictEqual, .binary .equal),
      (.notEqual, .binary .notEqual), (.strictNotEqual, .binary .notEqual)]
  | 3 => [(.less, .binary .less), (.lessEqual, .binary .lessEqual),
      (.greater, .binary .greater), (.greaterEqual, .binary .greaterEqual)]
  | 4 => [(.plus, .binary .add), (.minus, .binary .subtract)]
  | 5 => [(.times, .binary .multiply), (.divide, .binary .divide),
      (.percent, .binary .remainder)]
  | _ => []

/-- The operators before an operand with their marks. -/
def leadingOperators : List (Mark × UnaryOperator) := [(.not, .not), (.minus, .negate)]

/-- The brackets that expressions are listed in. -/
inductive Bracket
  | round
  | square

/-- The mark that ends a listing. -/
def Bracket.closing : Bracket → Mark
  | round => .closeParen
  | square => .closeBracket

/-- What a part of an expression has to be. -/
inductive Phrase
  /-- A whole expression. -/
  | whole
  /-- Operands with operators of a level, or of a tighter one, between them. -/
  | level (n : Nat)
  /-- The operators of a level with the operand after each. -/
  | further (n : Nat)
  /-- An operand with the operators before it. -/
  | operand
  /-- The accesses and calls behind a primary. -/
  | accesses
  /-- A literal, a name, an expression in parentheses or an array. -/
  | primary
  /-- Expressions with commas between them, and the closing bracket. -/
  | listing (b : Bracket)
  /-- What follows an expression of a listing. -/
  | others (b : Bracket)

/-- What a phrase stands for.  The phrases that continue a tree say what becomes of it. -/
abbrev Phrase.Meaning : Phrase → Type
  | further _ => Expr → Expr
  | accesses => Expr → Expr
  | listing _ => List Expr
  | others _ => List Expr
  | _ => Expr

/-- The derivations of a phrase, one form for each rule of the grammar. -/
inductive Derivation : Phrase → Type
  | plain (body : Derivation (.level 0)) : Derivation .whole
  | choice (condition : Derivation (.level 0)) (consequent alternative : Derivation .whole) :
      Derivation .whole
  | chain {n : Nat} (h : n < 6) (first : Derivation (.level (n + 1)))
      (more : Derivation (.further n)) : Derivation (.level n)
  | single (inner : Derivation .operand) : Derivation (.level 6)
  | enough {n : Nat} : Derivation (.further n)
  | another {n : Nat} {m : Mark} {o : Operator} (h : (m, o) ∈ operators n)
      (right : Derivation (.level (n + 1))) (more : Derivation (.further n)) :
      Derivation (.further n)
  | leading {m : Mark} {o : UnaryOperator} (h : (m, o) ∈ leadingOperators)
      (inner : Derivation .operand) : Derivation .operand
  | accessed (object : Derivation .primary) (more : Derivation .accesses) : Derivation .operand
  | unchanged : Derivation .accesses
  | member (property : String) (more : Derivation .accesses) : Derivation .accesses
  | index (position : Derivation .whole) (more : Derivation .accesses) : Derivation .accesses
  | call (arguments : Derivation (.listing .round)) (more : Derivation .accesses) :
      Derivation .accesses
  | number (value : Double) : Derivation .primary
  | string (text : String) : Derivation .primary
  | name (text : String) : Derivation .primary
  | parens (inner : Derivation .whole) : Derivation .primary
  | array (listing : Derivation (.listing .square)) : Derivation .primary
  | empty {b : Bracket} : Derivation (.listing b)
  | items {b : Bracket} (first : Derivation .whole) (more : Derivation (.others b)) :
      Derivation (.listing b)
  | close {b : Bracket} : Derivation (.others b)
  | comma {b : Bracket} (next : Derivation .whole) (more : Derivation (.others b)) :
      Derivation (.others b)

namespace Derivation

/-- The tokens a derivation derives. -/
@[simp] def tokens : {p : Phrase} → Derivation p → List Token
  | _, plain body => body.tokens
  | _, choice condition consequent alternative =>
      condition.tokens ++ .mark .question :: (consequent.tokens ++
        .mark .colon :: alternative.tokens)
  | _, chain _ first more => first.tokens ++ more.tokens
  | _, single inner => inner.tokens
  | _, enough => []
  | _, @another _ m _ _ right more => .mark m :: (right.tokens ++ more.tokens)
  | _, @leading m _ _ inner => .mark m :: inner.tokens
  | _, accessed object more => object.tokens ++ more.tokens
  | _, unchanged => []
  | _, member property more => .mark .dot :: .identifier property :: more.tokens
  | _, index position more =>
      .mark .openBracket :: (position.tokens ++ .mark .closeBracket :: more.tokens)
  | _, call arguments more => .mark .openParen :: (arguments.tokens ++ more.tokens)
  | _, number value => [.number value]
  | _, string text => [.string text]
  | _, name text => [.identifier text]
  | _, parens inner => .mark .openParen :: (inner.tokens ++ [.mark .closeParen])
  | _, array listing => .mark .openBracket :: listing.tokens
  | _, @empty b => [.mark b.closing]
  | _, items first more => first.tokens ++ more.tokens
  | _, @close b => [.mark b.closing]
  | _, comma next more => .mark .comma :: (next.tokens ++ more.tokens)

/-- What a derivation denotes. -/
@[simp] def tree : {p : Phrase} → Derivation p → p.Meaning
  | _, plain body => body.tree
  | _, choice condition consequent alternative =>
      Expr.conditional condition.tree consequent.tree alternative.tree
  | _, chain _ first more => more.tree first.tree
  | _, single inner => inner.tree
  | _, enough => fun left => left
  | _, @another _ _ o _ right more => fun left => more.tree (o.node left right.tree)
  | _, @leading _ o _ inner => Expr.unary o inner.tree
  | _, accessed object more => more.tree object.tree
  | _, unchanged => fun object => object
  | _, member property more => fun object => more.tree (Expr.member object property)
  | _, index position more => fun object => more.tree (Expr.index object position.tree)
  | _, call arguments more => fun object => more.tree (Expr.call object arguments.tree)
  | _, number value => ofNumber value
  | _, string text => Expr.literal (.string text)
  | _, name text => ofName text
  | _, parens inner => inner.tree
  | _, array listing => Expr.array listing.tree
  | _, empty => []
  | _, items first more => first.tree :: more.tree
  | _, close => []
  | _, comma next more => next.tree :: more.tree

/-- How many levels of nesting are open at once, at most. -/
@[simp] def depth : {p : Phrase} → Derivation p → Nat
  | _, plain body => body.depth + 1
  | _, choice condition consequent alternative =>
      max condition.depth (max consequent.depth alternative.depth) + 1
  | _, chain _ first more => max first.depth more.depth
  | _, single inner => inner.depth
  | _, enough => 0
  | _, another _ right more => max right.depth more.depth
  | _, leading _ inner => inner.depth + 1
  | _, accessed object more => max object.depth more.depth
  | _, unchanged => 0
  | _, member _ more => more.depth
  | _, index position more => max position.depth more.depth
  | _, call arguments more => max arguments.depth more.depth
  | _, number _ => 0
  | _, string _ => 0
  | _, name _ => 0
  | _, parens inner => inner.depth
  | _, array listing => listing.depth
  | _, empty => 0
  | _, items first more => max first.depth more.depth
  | _, close => 0
  | _, comma next more => max next.depth more.depth

end Derivation

/-! ## The operators of a mark -/

/-- A mark stands for the operators of its level, which the reading of marks counts
from one. -/
theorem operator?_eq_some_iff {m : Mark} {o : Operator} {n : Nat} :
    operator? m = some (o, n + 1) ↔ (m, o) ∈ operators n := by
  rcases n with _ | _ | _ | _ | _ | _ | n <;> cases m <;>
    simp [operator?, operators, eq_comm]

/-- Every operator between operands is on one of the levels. -/
theorem exists_of_operator? {m : Mark} {o : Operator} {level : Nat}
    (h : operator? m = some (o, level)) :
    ∃ n, level = n + 1 ∧ n < 6 ∧ (m, o) ∈ operators n := by
  cases m <;> simp only [operator?, Option.some.injEq, Prod.mk.injEq, reduceCtorEq] at h <;>
    obtain ⟨rfl, rfl⟩ := h <;> exact ⟨_, rfl, by decide, by decide⟩

/-! ## Where a phrase ends -/

/-- Whether a token can be the first of an expression. -/
def startsExpression : Token → Bool
  | .mark m => m == .openParen || m == .openBracket || m == .not || m == .minus
  | _ => true

/-- Whether a token starts an access or a call. -/
def startsAccess : Token → Bool
  | .mark m => m == .dot || m == .openBracket || m == .openParen
  | _ => false

/-- Whether a token is an operator of a level or of a tighter one. -/
def isOperatorOf (n : Nat) : Token → Bool
  | .mark m => (operator? m).any fun found => decide (n < found.2)
  | _ => false

/-- Whether a phrase that could end may go on with a token. -/
def Phrase.continues : Phrase → Token → Bool
  | whole, t => t == .mark .question || startsAccess t || isOperatorOf 0 t
  | level n, t => startsAccess t || isOperatorOf n t
  | further n, t => startsAccess t || isOperatorOf n t
  | operand, t => startsAccess t
  | accesses, t => startsAccess t
  | primary, _ => false
  | listing _, _ => false
  | others _, _ => false

/-- The tokens do not go on with the phrase. -/
def Stops (p : Phrase) (ts : List Token) : Prop := ∀ t ∈ ts.head?, p.continues t = false

theorem stops_cons {p : Phrase} {t : Token} {ts : List Token} :
    Stops p (t :: ts) ↔ p.continues t = false := by
  simp [Stops]

theorem stops_nil {p : Phrase} : Stops p [] := by
  simp [Stops]

/-- What stops a phrase stops one that fewer tokens continue. -/
theorem Stops.mono {p q : Phrase} {ts : List Token} (h : Stops p ts)
    (hpq : ∀ t, p.continues t = false → q.continues t = false) : Stops q ts :=
  fun t ht => hpq t (h t ht)

theorem isOperatorOf_mono {n k : Nat} {t : Token} (hk : n ≤ k) (h : isOperatorOf n t = false) :
    isOperatorOf k t = false := by
  cases t with
  | mark m =>
      cases hm : operator? m with
      | none => simp [isOperatorOf, hm]
      | some found =>
          simp only [isOperatorOf, hm, Option.any_some, decide_eq_false_iff_not] at h ⊢
          omega
  | _ => rfl

theorem Stops.level_zero {ts : List Token} (h : Stops .whole ts) : Stops (.level 0) ts := by
  refine h.mono fun t ht => ?_
  simp only [Phrase.continues, Bool.or_eq_false_iff] at ht ⊢
  exact ⟨ht.1.2, ht.2⟩

theorem Stops.tighter {n k : Nat} {ts : List Token} (h : Stops (.level n) ts) (hk : n ≤ k) :
    Stops (.level k) ts := by
  refine h.mono fun t ht => ?_
  simp only [Phrase.continues, Bool.or_eq_false_iff] at ht ⊢
  exact ⟨ht.1, isOperatorOf_mono hk ht.2⟩

theorem Stops.operand {n : Nat} {ts : List Token} (h : Stops (.level n) ts) :
    Stops .operand ts := by
  refine h.mono fun t ht => ?_
  simp only [Phrase.continues, Bool.or_eq_false_iff] at ht ⊢
  exact ht.1

/-- No operator is on a level behind the tightest. -/
theorem Stops.level_of_le {n : Nat} {ts : List Token} (h : Stops .operand ts) (hn : 6 ≤ n) :
    Stops (.level n) ts := by
  refine h.mono fun t ht => ?_
  rw [Phrase.continues] at ht
  rw [Phrase.continues, ht, Bool.false_or]
  cases t with
  | mark m =>
      cases hm : operator? m with
      | none => simp [isOperatorOf, hm]
      | some found =>
          obtain ⟨k, hk, hlt, -⟩ := exists_of_operator? hm
          simp only [isOperatorOf, hm, Option.any_some, decide_eq_false_iff_not]
          omega
  | _ => rfl

/-- An operator of a level is no access. -/
theorem startsAccess_operator {m : Mark} {o : Operator} {n : Nat} (h : (m, o) ∈ operators n) :
    startsAccess (.mark m) = false := by
  have hm := operator?_eq_some_iff.mpr h
  cases m <;> first | rfl | cases hm

/-- An operator stops the levels that are tighter than its own, and no other. -/
theorem isOperatorOf_eq_false_iff {m : Mark} {o : Operator} {n k : Nat}
    (h : (m, o) ∈ operators n) : isOperatorOf k (.mark m) = false ↔ n < k := by
  rw [isOperatorOf, operator?_eq_some_iff.mpr h, Option.any_some, decide_eq_false_iff_not]
  omega

theorem stops_operator {m : Mark} {o : Operator} {n k : Nat} {ts : List Token}
    (h : (m, o) ∈ operators n) : Stops (.level k) (.mark m :: ts) ↔ n < k := by
  rw [stops_cons, Phrase.continues, startsAccess_operator h, Bool.false_or,
    isOperatorOf_eq_false_iff h]

/-! ## How a phrase starts -/

namespace Derivation

/-- The operators of a level stop the next tighter one. -/
theorem stops_further {n : Nat} (d : Derivation (.further n)) {ts : List Token}
    (h : Stops (.level n) ts) : Stops (.level (n + 1)) (d.tokens ++ ts) := by
  cases d with
  | enough => exact h.tighter (Nat.le_succ n)
  | another ho right more => exact (stops_operator ho).mpr (Nat.lt_succ_self n)

/-- A primary starts with a token that is no operator before an operand. -/
theorem primary_head (d : Derivation .primary) :
    ∃ t ts, d.tokens = t :: ts ∧ startsExpression t = true ∧ t ≠ .mark .not ∧
      t ≠ .mark .minus := by
  cases d <;> exact ⟨_, _, rfl, rfl, nofun, nofun⟩

theorem leading_mark {m : Mark} {o : UnaryOperator} (h : (m, o) ∈ leadingOperators) :
    m = .not ∧ o = .not ∨ m = .minus ∧ o = .negate := by
  simpa [leadingOperators] using h

/-- A mark is one operator before an operand at most. -/
theorem leading_operator {m : Mark} {o o' : UnaryOperator} (h : (m, o) ∈ leadingOperators)
    (h' : (m, o') ∈ leadingOperators) : o = o' := by
  obtain ⟨rfl, rfl⟩ | ⟨rfl, rfl⟩ := leading_mark h <;>
    obtain ⟨hm, rfl⟩ | ⟨hm, rfl⟩ := leading_mark h' <;> first | rfl | cases hm

theorem leading_ne_accessed {m : Mark} {o : UnaryOperator} {inner ts : List Token}
    (h : (m, o) ∈ leadingOperators) (d : Derivation .primary) {rest : List Token} :
    .mark m :: inner ++ ts ≠ d.tokens ++ rest := by
  obtain ⟨t, more, hts, -, hnot, hminus⟩ := d.primary_head
  rw [hts]
  intro heq
  have ht := (List.cons.inj heq).1
  obtain ⟨rfl, -⟩ | ⟨rfl, -⟩ := leading_mark h
  · exact hnot ht.symm
  · exact hminus ht.symm

end Derivation

/-- The phrases of which every derivation is an expression. -/
def Phrase.isExpression : Phrase → Bool
  | whole => true
  | level _ => true
  | operand => true
  | primary => true
  | _ => false

/-- An expression starts with a token that can be its first. -/
theorem Derivation.head {p : Phrase} (d : Derivation p) (hp : p.isExpression = true) :
    ∃ t ts, d.tokens = t :: ts ∧ startsExpression t = true := by
  induction d with
  | plain body ih => exact ih rfl
  | choice condition consequent alternative ih =>
      obtain ⟨t, ts, hts, ht⟩ := ih rfl
      exact ⟨t, _, by rw [tokens, hts, List.cons_append], ht⟩
  | chain h first more ih =>
      obtain ⟨t, ts, hts, ht⟩ := ih rfl
      exact ⟨t, _, by rw [tokens, hts, List.cons_append], ht⟩
  | single inner ih => exact ih rfl
  | leading h inner ih =>
      refine ⟨_, _, rfl, ?_⟩
      obtain ⟨rfl, -⟩ | ⟨rfl, -⟩ := leading_mark h <;> rfl
  | accessed object more =>
      obtain ⟨t, ts, hts, ht, -⟩ := object.primary_head
      exact ⟨t, _, by rw [tokens, hts, List.cons_append], ht⟩
  | number | string | name | parens | array => exact ⟨_, _, rfl, rfl⟩
  | _ => cases hp

theorem Bracket.closing_ne_comma {b : Bracket} : Token.mark b.closing ≠ .mark .comma := by
  cases b <;> nofun

/-- What follows an expression of a listing stops it. -/
theorem Derivation.stops_others {b : Bracket} (d : Derivation (.others b)) {ts : List Token} :
    Stops .whole (d.tokens ++ ts) := by
  cases d with
  | close => cases b <;> exact stops_cons.mpr rfl
  | comma next more => exact stops_cons.mpr rfl

/-- No expression starts with a closing bracket. -/
theorem Derivation.tokens_ne_closing {b : Bracket} {ts rest : List Token}
    (d : Derivation .whole) : d.tokens ++ ts ≠ .mark b.closing :: rest := by
  obtain ⟨t, more, hts, ht⟩ := d.head rfl
  rw [hts]
  intro h
  obtain ⟨rfl, -⟩ := List.cons.inj h
  cases b <;> cases ht

/-! ## One derivation -/

namespace Derivation

/-- Two derivations of a phrase at the start of the same tokens are the same, and
leave the same tokens, if what they leave does not go on with the phrase. -/
theorem unique {p : Phrase} (d d' : Derivation p) {ts ts' : List Token}
    (h : d.tokens ++ ts = d'.tokens ++ ts') (hs : Stops p ts) (hs' : Stops p ts') :
    d = d' ∧ ts = ts' := by
  induction d generalizing ts ts' with
  | plain body ih =>
      cases d' with
      | plain body' =>
          obtain ⟨rfl, rfl⟩ := ih body' h hs.level_zero hs'.level_zero
          exact ⟨rfl, rfl⟩
      | choice condition consequent alternative =>
          simp only [tokens, List.append_assoc, List.cons_append] at h
          obtain ⟨-, rfl⟩ := ih condition h hs.level_zero (stops_cons.mpr rfl)
          cases stops_cons.mp hs
  | choice condition consequent alternative ih₁ ih₂ ih₃ =>
      simp only [tokens, List.append_assoc, List.cons_append] at h
      cases d' with
      | plain body =>
          obtain ⟨-, rfl⟩ := ih₁ body h (stops_cons.mpr rfl) hs'.level_zero
          cases stops_cons.mp hs'
      | choice condition' consequent' alternative' =>
          simp only [tokens, List.append_assoc, List.cons_append] at h
          obtain ⟨rfl, hrest⟩ := ih₁ condition' h (stops_cons.mpr rfl) (stops_cons.mpr rfl)
          obtain ⟨rfl, hlast⟩ := ih₂ consequent' (List.cons.inj hrest).2 (stops_cons.mpr rfl)
            (stops_cons.mpr rfl)
          obtain ⟨rfl, rfl⟩ := ih₃ alternative' (List.cons.inj hlast).2 hs hs'
          exact ⟨rfl, rfl⟩
  | chain hn first more ih₁ ih₂ =>
      cases d' with
      | chain hn' first' more' =>
          simp only [tokens, List.append_assoc] at h
          obtain ⟨rfl, hrest⟩ := ih₁ first' h (more.stops_further hs) (more'.stops_further hs')
          obtain ⟨rfl, rfl⟩ := ih₂ more' hrest hs hs'
          exact ⟨rfl, rfl⟩
      | single inner => exact absurd hn (Nat.lt_irrefl 6)
  | single inner ih =>
      cases d' with
      | chain hn => exact absurd hn (Nat.lt_irrefl 6)
      | single inner' =>
          obtain ⟨rfl, rfl⟩ := ih inner' h hs.operand hs'.operand
          exact ⟨rfl, rfl⟩
  | enough =>
      cases d' with
      | enough => exact ⟨rfl, h⟩
      | another ho right more =>
          cases (show ts = _ from h)
          exact absurd ((stops_operator ho).mp hs) (Nat.lt_irrefl _)
  | another ho right more ih₁ ih₂ =>
      cases d' with
      | enough =>
          cases (show _ = ts' from h)
          exact absurd ((stops_operator ho).mp hs') (Nat.lt_irrefl _)
      | another ho' right' more' =>
          simp only [tokens, List.append_assoc, List.cons_append] at h
          obtain ⟨hm, hrest⟩ := List.cons.inj h
          cases hm
          have hsome := operator?_eq_some_iff.mpr ho
          rw [operator?_eq_some_iff.mpr ho'] at hsome
          cases hsome
          obtain ⟨rfl, hlast⟩ := ih₁ right' hrest (more.stops_further hs)
            (more'.stops_further hs')
          obtain ⟨rfl, rfl⟩ := ih₂ more' hlast hs hs'
          exact ⟨rfl, rfl⟩
  | leading ho inner ih =>
      cases d' with
      | leading ho' inner' =>
          simp only [tokens, List.cons_append] at h
          obtain ⟨hm, hrest⟩ := List.cons.inj h
          cases hm
          obtain ⟨rfl, rfl⟩ := ih inner' hrest hs hs'
          cases leading_operator ho ho'
          exact ⟨rfl, rfl⟩
      | accessed object more =>
          rw [tokens, tokens, List.append_assoc] at h
          exact absurd h (leading_ne_accessed ho object)
  | accessed object more ih₁ ih₂ =>
      cases d' with
      | leading ho inner =>
          rw [tokens, tokens, List.append_assoc] at h
          exact absurd h.symm (leading_ne_accessed ho object)
      | accessed object' more' =>
          simp only [tokens, List.append_assoc] at h
          obtain ⟨rfl, hrest⟩ := ih₁ object' h (fun _ _ => rfl) (fun _ _ => rfl)
          obtain ⟨rfl, rfl⟩ := ih₂ more' hrest hs hs'
          exact ⟨rfl, rfl⟩
  | unchanged =>
      cases d' with
      | unchanged => exact ⟨rfl, h⟩
      | _ =>
          cases (show ts = _ from h)
          cases stops_cons.mp hs
  | member property more ih =>
      cases d' with
      | unchanged =>
          cases (show _ = ts' from h)
          cases stops_cons.mp hs'
      | member property' more' =>
          obtain ⟨hname, hrest⟩ := List.cons.inj (List.cons.inj h).2
          cases hname
          obtain ⟨rfl, rfl⟩ := ih more' hrest hs hs'
          exact ⟨rfl, rfl⟩
      | _ => cases (List.cons.inj h).1
  | index position more ih₁ ih₂ =>
      cases d' with
      | unchanged =>
          cases (show _ = ts' from h)
          cases stops_cons.mp hs'
      | index position' more' =>
          simp only [tokens, List.append_assoc, List.cons_append] at h
          obtain ⟨rfl, hrest⟩ := ih₁ position' (List.cons.inj h).2 (stops_cons.mpr rfl)
            (stops_cons.mpr rfl)
          obtain ⟨rfl, rfl⟩ := ih₂ more' (List.cons.inj hrest).2 hs hs'
          exact ⟨rfl, rfl⟩
      | _ => cases (List.cons.inj h).1
  | call arguments more ih₁ ih₂ =>
      cases d' with
      | unchanged =>
          cases (show _ = ts' from h)
          cases stops_cons.mp hs'
      | call arguments' more' =>
          simp only [tokens, List.append_assoc, List.cons_append] at h
          obtain ⟨rfl, hrest⟩ := ih₁ arguments' (List.cons.inj h).2 (fun _ _ => rfl)
            (fun _ _ => rfl)
          obtain ⟨rfl, rfl⟩ := ih₂ more' hrest hs hs'
          exact ⟨rfl, rfl⟩
      | _ => cases (List.cons.inj h).1
  | number value =>
      cases d' with
      | number value' => cases h; exact ⟨rfl, rfl⟩
      | _ => cases (List.cons.inj h).1
  | string text =>
      cases d' with
      | string text' => cases h; exact ⟨rfl, rfl⟩
      | _ => cases (List.cons.inj h).1
  | name text =>
      cases d' with
      | name text' => cases h; exact ⟨rfl, rfl⟩
      | _ => cases (List.cons.inj h).1
  | parens inner ih =>
      cases d' with
      | parens inner' =>
          simp only [tokens, List.append_assoc, List.cons_append] at h
          obtain ⟨rfl, hrest⟩ := ih inner' (List.cons.inj h).2 (stops_cons.mpr rfl)
            (stops_cons.mpr rfl)
          exact ⟨rfl, (List.cons.inj hrest).2⟩
      | _ => cases (List.cons.inj h).1
  | array listing ih =>
      cases d' with
      | array listing' =>
          obtain ⟨rfl, rfl⟩ := ih listing' (List.cons.inj h).2 (fun _ _ => rfl) (fun _ _ => rfl)
          exact ⟨rfl, rfl⟩
      | _ => cases (List.cons.inj h).1
  | empty =>
      cases d' with
      | empty => exact ⟨rfl, (List.cons.inj h).2⟩
      | items first more =>
          simp only [tokens, List.append_assoc] at h
          exact absurd h.symm first.tokens_ne_closing
  | items first more ih₁ ih₂ =>
      simp only [tokens, List.append_assoc] at h
      cases d' with
      | empty => exact absurd h first.tokens_ne_closing
      | items first' more' =>
          simp only [tokens, List.append_assoc] at h
          obtain ⟨rfl, hrest⟩ := ih₁ first' h more.stops_others more'.stops_others
          obtain ⟨rfl, rfl⟩ := ih₂ more' hrest hs hs'
          exact ⟨rfl, rfl⟩
  | close =>
      cases d' with
      | close => exact ⟨rfl, (List.cons.inj h).2⟩
      | comma next more => exact absurd (List.cons.inj h).1 Bracket.closing_ne_comma
  | comma next more ih₁ ih₂ =>
      cases d' with
      | close => exact absurd (List.cons.inj h).1.symm Bracket.closing_ne_comma
      | comma next' more' =>
          simp only [tokens, List.append_assoc, List.cons_append] at h
          obtain ⟨rfl, hrest⟩ := ih₁ next' (List.cons.inj h).2 more.stops_others
            more'.stops_others
          obtain ⟨rfl, rfl⟩ := ih₂ more' hrest hs hs'
          exact ⟨rfl, rfl⟩

end Derivation

end Expr

end BundleConfig
