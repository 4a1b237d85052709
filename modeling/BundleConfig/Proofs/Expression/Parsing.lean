import BundleConfig.Proofs.Expression.Grammar
import BundleConfig.Proofs.Result

/-!
# What the reader of expressions accepts

The reader climbs over binding levels with one function and a counter of fuel, and
the grammar goes down one level after the other.  The two say the same about every
list of tokens.

*What is derived is read.*  `Reads` says for each phrase which step of the reader
reads it, with how much fuel and how many levels of nesting.  The fuel is eight for
each token and a few more, since no step on the way from a listing down to a primary
uses up a token.  The step for a level does not return at the end of a phrase but
goes on with the operators of looser levels, so that its rule says which call is
left to make.

*What is read is derived.*  `Derives` holds one statement for each step and goes by
induction on the fuel.  A tree that was read stays a derivation of the tightest
level it can be on, and `exists_loose` brings it to the level of the operator that
follows, where `exists_extension` adds the operator and its right side.

*Together.*  `whole_eq_ok_iff` is both directions with the fuel and the levels the
reader starts with.
-/

namespace BundleConfig

namespace Expr

/-! ## Derivations that are read -/

/-- A mark that stands there is used. -/
theorem expect_eq_ok {m : Mark} {ts rest : List Token} :
    expect m ts = .ok rest ↔ ts = .mark m :: rest := by
  unfold expect
  cases ts with
  | nil => simp
  | cons t ts =>
      by_cases h : t = .mark m <;> simp [h]

namespace Derivation

/-- A whole expression is read with fuel for its tokens and as many levels of nesting
as are open in it. -/
def ReadsWhole (d : Derivation .whole) : Prop :=
  ∀ (fuel levels : Nat) (rest : List Token), 8 * d.tokens.length + 4 ≤ fuel →
    d.depth ≤ levels → Stops .whole rest → whole fuel levels (d.tokens ++ rest) = .ok (d.tree, rest)

/-- The step for a phrase reads what is derived, with fuel for its tokens and as many
levels of nesting as are open in it.  The steps for operators go on behind it. -/
def Reads : {p : Phrase} → Derivation p → Prop
  | .whole, d => d.ReadsWhole
  | .level n, d =>
      ∀ (fuel levels least : Nat) (rest : List Token), 8 * d.tokens.length + 3 ≤ fuel →
        d.depth ≤ levels → least ≤ n + 1 → Stops (.level n) rest →
        ∃ left, fuel ≤ left + d.tokens.length ∧
          operation fuel levels least (d.tokens ++ rest) =
            operationRest left levels least d.tree rest
  | .further n, d =>
      ∀ (fuel levels least : Nat) (e : Expr) (rest : List Token),
        8 * d.tokens.length + 3 ≤ fuel → d.depth ≤ levels → least ≤ n + 1 →
        Stops (.level n) rest →
        ∃ left, fuel ≤ left + d.tokens.length ∧
          operationRest fuel levels least e (d.tokens ++ rest) =
            operationRest left levels least (d.tree e) rest
  | .operand, d =>
      ∀ (fuel levels : Nat) (rest : List Token), 8 * d.tokens.length + 2 ≤ fuel →
        d.depth ≤ levels → Stops .operand rest →
        operand fuel levels (d.tokens ++ rest) = .ok (d.tree, rest)
  | .accesses, d =>
      ∀ (fuel levels : Nat) (object : Expr) (rest : List Token),
        8 * d.tokens.length + 1 ≤ fuel → d.depth ≤ levels → Stops .accesses rest →
        accesses fuel levels object (d.tokens ++ rest) = .ok (d.tree object, rest)
  | .primary, d =>
      ∀ (fuel levels : Nat) (rest : List Token), 8 * d.tokens.length ≤ fuel →
        d.depth ≤ levels → primary fuel levels (d.tokens ++ rest) = .ok (d.tree, rest)
  | .listing b, d =>
      ∀ (fuel levels : Nat) (rest : List Token), 8 * d.tokens.length + 6 ≤ fuel →
        d.depth ≤ levels → list fuel levels b.closing (d.tokens ++ rest) = .ok (d.tree, rest)
  | .others b, d =>
      ∀ (first : Derivation .whole) (fuel levels : Nat) (rest : List Token), first.ReadsWhole →
        8 * (first.tokens.length + d.tokens.length) + 5 ≤ fuel →
        max first.depth d.depth ≤ levels →
        listItems fuel levels b.closing (first.tokens ++ (d.tokens ++ rest)) =
          .ok (first.tree :: d.tree, rest)

/-! ### One rule after the other -/

/-- Where a level stops, no operator of it is left to read. -/
theorem operationRest_of_stops {fuel levels : Nat} (least : Nat) {e : Expr} {rest : List Token}
    (hs : Stops (.level (least - 1)) rest) (hf : 0 < fuel) :
    operationRest fuel levels least e rest = .ok (e, rest) := by
  obtain ⟨fuel, rfl⟩ := Nat.exists_eq_add_one_of_ne_zero (Nat.ne_of_gt hf)
  cases rest with
  | nil =>
      rw [operationRest]
      rintro m ts heq
      cases heq
  | cons t rest =>
      cases t with
      | mark m =>
          rw [operationRest]
          split
          next o level ho =>
            obtain ⟨k, rfl, -, hk⟩ := exists_of_operator? ho
            have hlt := (stops_operator hk).mp hs
            rw [if_pos (by omega)]
          next => rfl
      | _ =>
          rw [operationRest]
          rintro m ts heq
          cases heq

theorem reads_plain {body : Derivation (.level 0)} (h : body.Reads) : (plain body).Reads := by
  intro fuel levels rest hf hl hs
  simp only [tokens, depth] at hf hl
  obtain ⟨fuel, rfl⟩ := Nat.exists_eq_add_one_of_ne_zero (by omega : fuel ≠ 0)
  obtain ⟨levels, rfl⟩ := Nat.exists_eq_add_one_of_ne_zero (by omega : levels ≠ 0)
  obtain ⟨left, hleft, heq⟩ := h fuel levels 0 rest
    (by omega) (by omega) (by omega) hs.level_zero
  have hnext : ∀ ts, rest ≠ .mark .question :: ts := by
    rintro ts rfl
    cases stops_cons.mp hs
  rw [whole, nested, tokens, heq,
    operationRest_of_stops 0 hs.level_zero (by omega)]
  refine bind_eq_ok.mpr ⟨_, rfl, ?_⟩
  dsimp only
  split
  next ts => exact absurd rfl (hnext ts)
  next => rfl

theorem reads_choice {condition : Derivation (.level 0)}
    {consequent alternative : Derivation .whole}
    (h₁ : condition.Reads) (h₂ : consequent.Reads) (h₃ : alternative.Reads) :
    (choice condition consequent alternative).Reads := by
  intro fuel levels rest hf hl hs
  simp only [tokens, depth, List.length_append, List.length_cons] at hf hl
  obtain ⟨fuel, rfl⟩ := Nat.exists_eq_add_one_of_ne_zero (by omega : fuel ≠ 0)
  obtain ⟨levels, rfl⟩ := Nat.exists_eq_add_one_of_ne_zero (by omega : levels ≠ 0)
  simp only [tokens, List.append_assoc, List.cons_append]
  obtain ⟨left, hleft, heq⟩ := h₁ fuel levels 0
    (.mark .question :: (consequent.tokens ++ .mark .colon :: (alternative.tokens ++ rest)))
    (by omega) (by omega) (by omega) (stops_cons.mpr rfl)
  rw [whole, nested, heq,
    operationRest_of_stops 0 (stops_cons.mpr rfl) (by omega)]
  have hconsequent := h₂ fuel levels (.mark .colon :: (alternative.tokens ++ rest))
    (by omega) (by omega) (stops_cons.mpr rfl)
  have halternative := h₃ fuel levels rest (by omega) (by omega) hs
  refine bind_eq_ok.mpr ⟨_, rfl, ?_⟩
  refine bind_eq_ok.mpr ⟨_, hconsequent, ?_⟩
  refine bind_eq_ok.mpr ⟨_, expect_eq_ok.mpr rfl, ?_⟩
  exact bind_eq_ok.mpr ⟨_, halternative, rfl⟩

theorem reads_chain {n : Nat} (hn : n < 6) {first : Derivation (.level (n + 1))}
    {more : Derivation (.further n)} (h₁ : first.Reads) (h₂ : more.Reads) :
    (chain hn first more).Reads := by
  intro fuel levels least rest hf hl hleast hs
  simp only [tokens, depth, List.length_append] at hf hl ⊢
  obtain ⟨left, hleft, heq⟩ := h₁ fuel levels least (more.tokens ++ rest)
    (by omega) (by omega) (by omega) (more.stops_further hs)
  obtain ⟨left', hleft', heq'⟩ := h₂ left levels least first.tree rest
    (by omega) (by omega) hleast hs
  exact ⟨left', by omega, by rw [List.append_assoc, heq, heq']; rfl⟩

theorem reads_single {inner : Derivation .operand} (h : inner.Reads) : (single inner).Reads := by
  intro fuel levels least rest hf hl hleast hs
  simp only [tokens, depth] at hf hl ⊢
  obtain ⟨fuel, rfl⟩ := Nat.exists_eq_add_one_of_ne_zero (by omega : fuel ≠ 0)
  have hoperand := h fuel levels rest (by omega) hl hs.operand
  obtain ⟨t, ts, hts, -⟩ := inner.head rfl
  refine ⟨fuel, by rw [hts, List.length_cons]; omega, ?_⟩
  rw [operation, hoperand]
  rfl

theorem reads_enough {n : Nat} : (enough (n := n)).Reads := by
  intro fuel levels least e rest hf hl hleast hs
  exact ⟨fuel, Nat.le_add_right _ _, rfl⟩

theorem reads_another {n : Nat} {m : Mark} {o : Operator} (ho : (m, o) ∈ operators n)
    {right : Derivation (.level (n + 1))} {more : Derivation (.further n)} (h₁ : right.Reads)
    (h₂ : more.Reads) : (another ho right more).Reads := by
  intro fuel levels least e rest hf hl hleast hs
  simp only [tokens, depth, List.length_append, List.length_cons] at hf hl ⊢
  obtain ⟨fuel, rfl⟩ := Nat.exists_eq_add_one_of_ne_zero (by omega : fuel ≠ 0)
  have hrest := more.stops_further hs
  obtain ⟨left, hleft, heq⟩ := h₁ fuel levels (n + 2) (more.tokens ++ rest)
    (by omega) (by omega) (by omega) hrest
  rw [operationRest_of_stops _ hrest (by omega)] at heq
  obtain ⟨left', hleft', heq'⟩ := h₂ fuel levels least (o.node e right.tree) rest
    (by omega) (by omega) hleast hs
  refine ⟨left', by omega, ?_⟩
  have hlevel : ¬ n + 1 < least := by omega
  rw [List.cons_append, List.append_assoc, operationRest, operator?_eq_some_iff.mpr ho]
  simp only [if_neg hlevel, heq]
  exact heq'

theorem reads_leading {m : Mark} {o : UnaryOperator} (ho : (m, o) ∈ leadingOperators)
    {inner : Derivation .operand} (h : inner.Reads) : (leading ho inner).Reads := by
  intro fuel levels rest hf hl hs
  simp only [tokens, depth, List.length_cons] at hf hl
  obtain ⟨fuel, rfl⟩ := Nat.exists_eq_add_one_of_ne_zero (by omega : fuel ≠ 0)
  obtain ⟨levels, rfl⟩ := Nat.exists_eq_add_one_of_ne_zero (by omega : levels ≠ 0)
  have hinner := h fuel levels rest (by omega) (by omega) hs
  obtain ⟨rfl, rfl⟩ | ⟨rfl, rfl⟩ := leading_mark ho <;>
    rw [tokens, List.cons_append, operand, nested] <;>
    exact bind_eq_ok.mpr ⟨_, hinner, rfl⟩

theorem reads_accessed {object : Derivation .primary} {more : Derivation .accesses}
    (h₁ : object.Reads) (h₂ : more.Reads) : (accessed object more).Reads := by
  intro fuel levels rest hf hl hs
  simp only [tokens, depth, List.length_append] at hf hl
  obtain ⟨fuel, rfl⟩ := Nat.exists_eq_add_one_of_ne_zero (by omega : fuel ≠ 0)
  have hobject := h₁ fuel levels (more.tokens ++ rest)
    (by omega) (by omega)
  have hmore := h₂ fuel levels object.tree rest
    (by omega) (by omega) hs
  obtain ⟨t, ts, hts, -, hnot, hminus⟩ := object.primary_head
  rw [tokens, List.append_assoc]
  rw [operand]
  · exact bind_eq_ok.mpr ⟨_, hobject, hmore⟩
  · rw [hts]
    rintro ts' heq
    exact hnot (List.cons.inj heq).1
  · rw [hts]
    rintro ts' heq
    exact hminus (List.cons.inj heq).1

theorem reads_unchanged : unchanged.Reads := by
  intro fuel levels object rest hf hl hs
  obtain ⟨fuel, rfl⟩ := Nat.exists_eq_add_one_of_ne_zero (by omega : fuel ≠ 0)
  rw [tokens, List.nil_append]
  cases rest with
  | nil =>
      rw [accesses]
      · rfl
      all_goals
        rintro ts heq
        cases heq
  | cons t rest =>
      have ht := stops_cons.mp hs
      rw [accesses]
      · rfl
      all_goals
        rintro ts heq
        cases heq
        cases ht

theorem reads_member {property : String} {more : Derivation .accesses} (h : more.Reads) :
    (member property more).Reads := by
  intro fuel levels object rest hf hl hs
  simp only [tokens, depth, List.length_cons] at hf hl
  obtain ⟨fuel, rfl⟩ := Nat.exists_eq_add_one_of_ne_zero (by omega : fuel ≠ 0)
  rw [tokens, List.cons_append, List.cons_append, accesses]
  exact h _ _ _ _ (by omega) hl hs

theorem reads_index {position : Derivation .whole} {more : Derivation .accesses}
    (h₁ : position.Reads) (h₂ : more.Reads) : (index position more).Reads := by
  intro fuel levels object rest hf hl hs
  simp only [tokens, depth, List.length_append, List.length_cons] at hf hl
  obtain ⟨fuel, rfl⟩ := Nat.exists_eq_add_one_of_ne_zero (by omega : fuel ≠ 0)
  simp only [tokens, List.append_assoc, List.cons_append]
  have hposition := h₁ fuel levels (.mark .closeBracket :: (more.tokens ++ rest))
    (by omega) (by omega) (stops_cons.mpr rfl)
  have hmore := h₂ fuel levels (.index object position.tree) rest (by omega) (by omega) hs
  rw [accesses]
  refine bind_eq_ok.mpr ⟨_, hposition, ?_⟩
  exact bind_eq_ok.mpr ⟨_, expect_eq_ok.mpr rfl, hmore⟩

theorem reads_call {arguments : Derivation (.listing .round)} {more : Derivation .accesses}
    (h₁ : arguments.Reads) (h₂ : more.Reads) : (call arguments more).Reads := by
  intro fuel levels object rest hf hl hs
  simp only [tokens, depth, List.length_append, List.length_cons] at hf hl
  obtain ⟨fuel, rfl⟩ := Nat.exists_eq_add_one_of_ne_zero (by omega : fuel ≠ 0)
  simp only [tokens, List.append_assoc, List.cons_append]
  have harguments := h₁ fuel levels (more.tokens ++ rest)
    (by omega) (by omega)
  have hmore := h₂ fuel levels (.call object arguments.tree) rest (by omega) (by omega) hs
  rw [accesses]
  exact bind_eq_ok.mpr ⟨_, harguments, hmore⟩

theorem reads_parens {inner : Derivation .whole} (h : inner.Reads) : (parens inner).Reads := by
  intro fuel levels rest hf hl
  simp only [tokens, depth, List.length_append, List.length_cons] at hf hl
  obtain ⟨fuel, rfl⟩ := Nat.exists_eq_add_one_of_ne_zero (by omega : fuel ≠ 0)
  simp only [tokens, List.append_assoc, List.cons_append, List.nil_append]
  have hinner := h fuel levels (.mark .closeParen :: rest)
    (by omega) (by omega) (stops_cons.mpr rfl)
  rw [primary]
  refine bind_eq_ok.mpr ⟨_, hinner, ?_⟩
  exact bind_eq_ok.mpr ⟨_, expect_eq_ok.mpr rfl, rfl⟩

theorem reads_array {listing : Derivation (.listing .square)} (h : listing.Reads) :
    (array listing).Reads := by
  intro fuel levels rest hf hl
  simp only [tokens, depth, List.length_cons] at hf hl
  obtain ⟨fuel, rfl⟩ := Nat.exists_eq_add_one_of_ne_zero (by omega : fuel ≠ 0)
  have hlisting := h fuel levels rest (by omega) hl
  rw [tokens, List.cons_append, primary]
  exact bind_eq_ok.mpr ⟨_, hlisting, rfl⟩

theorem reads_empty {b : Bracket} : (empty (b := b)).Reads := by
  intro fuel levels rest hf hl
  obtain ⟨fuel, rfl⟩ := Nat.exists_eq_add_one_of_ne_zero (by omega : fuel ≠ 0)
  rw [tokens, List.cons_append, list]
  exact if_pos rfl

theorem reads_items {b : Bracket} {first : Derivation .whole} {more : Derivation (.others b)}
    (h₁ : first.Reads) (h₂ : more.Reads) : (items first more).Reads := by
  intro fuel levels rest hf hl
  simp only [tokens, depth, List.length_append] at hf hl
  obtain ⟨fuel, rfl⟩ := Nat.exists_eq_add_one_of_ne_zero (by omega : fuel ≠ 0)
  have hitems := h₂ _ fuel levels rest h₁ (by omega) hl
  have hopen : (first.tokens ++ (more.tokens ++ rest)).head? ≠ some (.mark b.closing) := by
    intro heq
    obtain ⟨ts, hts⟩ := List.head?_eq_some_iff.mp heq
    exact first.tokens_ne_closing hts
  rw [tokens, List.append_assoc, list, if_neg hopen]
  exact hitems

theorem reads_close {b : Bracket} : (close (b := b)).Reads := by
  intro first fuel levels rest h hf hl
  simp only [tokens, depth, List.length_cons, List.length_nil] at hf hl
  obtain ⟨fuel, rfl⟩ := Nat.exists_eq_add_one_of_ne_zero (by omega : fuel ≠ 0)
  have hfirst := h fuel levels ((close (b := b)).tokens ++ rest)
    (by omega) (by omega) close.stops_others
  rw [listItems]
  refine bind_eq_ok.mpr ⟨_, hfirst, ?_⟩
  exact if_pos rfl

theorem reads_comma {b : Bracket} {next : Derivation .whole} {more : Derivation (.others b)}
    (h₁ : next.Reads) (h₂ : more.Reads) : (comma next more).Reads := by
  intro first fuel levels rest h hf hl
  have hstops : Stops .whole ((comma next more).tokens ++ rest) := (comma next more).stops_others
  simp only [tokens, depth, List.length_append, List.length_cons, List.append_assoc,
    List.cons_append] at hf hl hstops ⊢
  obtain ⟨fuel, rfl⟩ := Nat.exists_eq_add_one_of_ne_zero (by omega : fuel ≠ 0)
  have hfirst := h fuel levels _ (by omega) (by omega) hstops
  have hmore := h₂ _ fuel levels rest h₁ (by omega) (by omega)
  have hne : ¬ some (Token.mark .comma) = some (.mark b.closing) := fun heq =>
    Bracket.closing_ne_comma (Option.some.inj heq).symm
  rw [listItems]
  refine bind_eq_ok.mpr ⟨_, hfirst, ?_⟩
  refine (if_neg hne).trans ?_
  refine bind_eq_ok.mpr ⟨_, expect_eq_ok.mpr rfl, ?_⟩
  exact bind_eq_ok.mpr ⟨_, hmore, rfl⟩

/-- Every derivation is read. -/
theorem reads {p : Phrase} (d : Derivation p) : d.Reads := by
  induction d with
  | plain body ih => exact reads_plain ih
  | choice condition consequent alternative ih₁ ih₂ ih₃ => exact reads_choice ih₁ ih₂ ih₃
  | chain hn first more ih₁ ih₂ => exact reads_chain hn ih₁ ih₂
  | single inner ih => exact reads_single ih
  | enough => exact reads_enough
  | another ho right more ih₁ ih₂ => exact reads_another ho ih₁ ih₂
  | leading ho inner ih => exact reads_leading ho ih
  | accessed object more ih₁ ih₂ => exact reads_accessed ih₁ ih₂
  | unchanged => exact reads_unchanged
  | member property more ih => exact reads_member ih
  | index position more ih₁ ih₂ => exact reads_index ih₁ ih₂
  | call arguments more ih₁ ih₂ => exact reads_call ih₁ ih₂
  | number | string | name =>
      intro fuel levels rest hf hl
      obtain ⟨fuel, rfl⟩ := Nat.exists_eq_add_one_of_ne_zero
        (Nat.ne_of_gt (Nat.lt_of_lt_of_le (Nat.succ_pos 7) hf))
      rw [tokens, List.cons_append, primary]
      rfl
  | parens inner ih => exact reads_parens ih
  | array listing ih => exact reads_array ih
  | empty => exact reads_empty
  | items first more ih₁ ih₂ => exact reads_items ih₁ ih₂
  | close => exact reads_close
  | comma next more ih₁ ih₂ => exact reads_comma ih₁ ih₂

end Derivation

/-! ## What is read is derived -/

namespace Derivation

/-- A derivation of the tokens in front of `rest` that opens no more levels than
there are. -/
structure Covers {p : Phrase} (d : Derivation p) (levels : Nat) (ts rest : List Token) : Prop where
  tokens : d.tokens ++ rest = ts
  depth : d.depth ≤ levels

theorem level_le : ∀ {n : Nat}, Derivation (.level n) → n ≤ 6
  | _, chain h _ _ => Nat.le_of_lt h
  | _, single _ => Nat.le_refl 6

/-- What is on a tight level is on every looser one. -/
theorem exists_loose {n : Nat} : ∀ (k : Nat) (d : Derivation (.level (n + k))),
    ∃ d' : Derivation (.level n), d'.tokens = d.tokens ∧ d'.tree = d.tree ∧ d'.depth = d.depth
  | 0, d => ⟨d, rfl, rfl, rfl⟩
  | k + 1, d => by
      obtain ⟨d', htokens, htree, hdepth⟩ := exists_loose k (chain d.level_le d enough)
      refine ⟨d', ?_, htree, ?_⟩
      · rw [htokens, Derivation.tokens, Derivation.tokens, List.append_nil]
      · rw [hdepth, Derivation.depth, Derivation.depth, Nat.max_zero]

/-- The operators of a level can be followed by one more. -/
theorem exists_concat {n : Nat} {m : Mark} {o : Operator} (ho : (m, o) ∈ operators n)
    (right : Derivation (.level (n + 1))) : ∀ more : Derivation (.further n),
    ∃ more' : Derivation (.further n), more'.tokens = more.tokens ++ .mark m :: right.tokens ∧
      (∀ left, more'.tree left = o.node (more.tree left) right.tree) ∧
      more'.depth = max more.depth right.depth
  | enough => ⟨another ho right enough, by simp [Derivation.tokens], fun _ => rfl,
      by simp [Derivation.depth]⟩
  | another ho' right' more => by
      obtain ⟨more', htokens, htree, hdepth⟩ := exists_concat ho right more
      refine ⟨another ho' right' more', ?_, fun left => htree _, ?_⟩
      · simp [Derivation.tokens, htokens]
      · simp [Derivation.depth, hdepth, Nat.max_assoc]

/-- What is on a level becomes the left side of an operator of the level. -/
theorem exists_extension {n : Nat} {m : Mark} {o : Operator} (ho : (m, o) ∈ operators n)
    (hn : n < 6) (d : Derivation (.level n)) (right : Derivation (.level (n + 1))) :
    ∃ d' : Derivation (.level n), d'.tokens = d.tokens ++ .mark m :: right.tokens ∧
      d'.tree = o.node d.tree right.tree ∧ d'.depth = max d.depth right.depth := by
  cases d with
  | chain h first more =>
      obtain ⟨more', htokens, htree, hdepth⟩ := exists_concat ho right more
      refine ⟨chain h first more', ?_, htree first.tree, ?_⟩
      · simp [Derivation.tokens, htokens]
      · simp [Derivation.depth, hdepth, Nat.max_assoc]
  | single inner => exact absurd hn (Nat.lt_irrefl 6)

end Derivation

/-- Whatever the steps read with some fuel is derived. -/
structure Derives (fuel : Nat) : Prop where
  whole : ∀ {levels : Nat} {ts rest : List Token} {e : Expr},
    Expr.whole fuel levels ts = .ok (e, rest) →
      ∃ d : Derivation .whole, d.Covers levels ts rest ∧ d.tree = e
  operation : ∀ {levels least : Nat} {ts rest : List Token} {e : Expr}, least ≤ 7 →
    Expr.operation fuel levels least ts = .ok (e, rest) →
      ∃ d : Derivation (.level (least - 1)), d.Covers levels ts rest ∧ d.tree = e ∧
        Stops (.level (least - 1)) rest
  operationRest : ∀ {levels least n : Nat} {ts rest : List Token} {e : Expr}
    (d : Derivation (.level n)), least ≤ n + 1 → d.depth ≤ levels → Stops (.level (n + 1)) ts →
    Expr.operationRest fuel levels least d.tree ts = .ok (e, rest) →
      ∃ d' : Derivation (.level (least - 1)), d'.Covers levels (d.tokens ++ ts) rest ∧
        d'.tree = e ∧ Stops (.level (least - 1)) rest
  operand : ∀ {levels : Nat} {ts rest : List Token} {e : Expr},
    Expr.operand fuel levels ts = .ok (e, rest) →
      ∃ d : Derivation .operand, d.Covers levels ts rest ∧ d.tree = e ∧ Stops .operand rest
  accesses : ∀ {levels : Nat} {object : Expr} {ts rest : List Token} {e : Expr},
    Expr.accesses fuel levels object ts = .ok (e, rest) →
      ∃ d : Derivation .accesses, d.Covers levels ts rest ∧ d.tree object = e ∧
        Stops .operand rest
  list : ∀ {levels : Nat} {b : Bracket} {ts rest : List Token} {es : List Expr},
    Expr.list fuel levels b.closing ts = .ok (es, rest) →
      ∃ d : Derivation (.listing b), d.Covers levels ts rest ∧ d.tree = es
  listItems : ∀ {levels : Nat} {b : Bracket} {ts rest : List Token} {es : List Expr},
    Expr.listItems fuel levels b.closing ts = .ok (es, rest) →
      ∃ (first : Derivation .whole) (more : Derivation (.others b)),
        first.tokens ++ (more.tokens ++ rest) = ts ∧ first.tree :: more.tree = es ∧
          max first.depth more.depth ≤ levels
  primary : ∀ {levels : Nat} {ts rest : List Token} {e : Expr},
    Expr.primary fuel levels ts = .ok (e, rest) →
      ∃ d : Derivation .primary, d.Covers levels ts rest ∧ d.tree = e

namespace Derives

open BundleConfig.Expr.Derivation

variable {fuel levels : Nat} {ts rest : List Token} {e : Expr}

theorem whole_succ (h : Derives fuel) (hok : Expr.whole (fuel + 1) levels ts = .ok (e, rest)) :
    ∃ d : Derivation .whole, d.Covers levels ts rest ∧ d.tree = e := by
  rw [Expr.whole] at hok
  cases levels with
  | zero => cases hok
  | succ levels =>
      obtain ⟨⟨condition, ts₁⟩, hcondition, hok⟩ := bind_eq_ok.mp hok
      obtain ⟨d₁, hd₁, rfl, -⟩ := h.operation (Nat.zero_le 7) hcondition
      dsimp only at hok
      split at hok
      next ts₂ =>
        obtain ⟨⟨consequent, ts₃⟩, hconsequent, hok⟩ := bind_eq_ok.mp hok
        obtain ⟨d₂, hd₂, rfl⟩ := h.whole hconsequent
        obtain ⟨ts₄, hcolon, hnext⟩ := bind_eq_ok.mp hok
        obtain rfl : ts₃ = .mark .colon :: ts₄ := expect_eq_ok.mp hcolon
        obtain ⟨⟨alternative, ts₅⟩, halternative, hend⟩ := bind_eq_ok.mp hnext
        obtain ⟨d₃, hd₃, rfl⟩ := h.whole halternative
        cases hend
        refine ⟨choice d₁ d₂ d₃, ⟨?_, ?_⟩, rfl⟩
        · rw [← hd₁.tokens, ← hd₂.tokens, ← hd₃.tokens]
          simp [Derivation.tokens]
        · have := hd₁.depth
          have := hd₂.depth
          have := hd₃.depth
          simp only [Derivation.depth]
          omega
      next =>
        cases hok
        exact ⟨plain d₁, ⟨hd₁.tokens, Nat.succ_le_succ hd₁.depth⟩, rfl⟩

theorem operation_succ {least : Nat} (h : Derives fuel) (hleast : least ≤ 7)
    (hok : Expr.operation (fuel + 1) levels least ts = .ok (e, rest)) :
    ∃ d : Derivation (.level (least - 1)), d.Covers levels ts rest ∧ d.tree = e ∧
      Stops (.level (least - 1)) rest := by
  rw [Expr.operation] at hok
  obtain ⟨⟨left, ts₁⟩, hleft, hok⟩ := bind_eq_ok.mp hok
  obtain ⟨d, hd, rfl, hs⟩ := h.operand hleft
  obtain ⟨d', hd', htree, hs'⟩ :=
    h.operationRest (single d) hleast hd.depth (hs.level_of_le (Nat.le_succ 6)) hok
  rw [Derivation.tokens, hd.tokens] at hd'
  exact ⟨d', hd', htree, hs'⟩

/-- What is on a level at least as tight as `least` is all that is read when no such
operator follows. -/
theorem exists_of_stops {least n : Nat} (d : Derivation (.level n)) (hleast : least ≤ n + 1)
    (hd : d.depth ≤ levels) (hs : Stops (.level (least - 1)) ts) :
    ∃ d' : Derivation (.level (least - 1)), d'.Covers levels (d.tokens ++ ts) ts ∧
      d'.tree = d.tree ∧ Stops (.level (least - 1)) ts := by
  obtain ⟨k, rfl⟩ : ∃ k, n = least - 1 + k := ⟨n - (least - 1), by omega⟩
  obtain ⟨d', htokens, htree, hdepth⟩ := exists_loose k d
  exact ⟨d', ⟨by rw [htokens], by rw [hdepth]; exact hd⟩, htree, hs⟩

theorem operationRest_succ {least n : Nat} (h : Derives fuel) (d : Derivation (.level n))
    (hleast : least ≤ n + 1) (hd : d.depth ≤ levels) (hs : Stops (.level (n + 1)) ts)
    (hok : Expr.operationRest (fuel + 1) levels least d.tree ts = .ok (e, rest)) :
    ∃ d' : Derivation (.level (least - 1)), d'.Covers levels (d.tokens ++ ts) rest ∧
      d'.tree = e ∧ Stops (.level (least - 1)) rest := by
  unfold Expr.operationRest at hok
  split at hok
  next m ts₁ =>
    split at hok
    next o level ho =>
      obtain ⟨k, rfl, hk, hmem⟩ := exists_of_operator? ho
      have hkn : k < n + 1 := (stops_operator hmem).mp hs
      split at hok
      next hlt =>
        cases hok
        exact exists_of_stops d hleast hd ((stops_operator hmem).mpr (by omega))
      next hlt =>
        obtain ⟨⟨right, ts₂⟩, hright, hok⟩ := bind_eq_ok.mp hok
        obtain ⟨d₂, hd₂, rfl, hs₂⟩ := h.operation (by omega) hright
        obtain ⟨j, rfl⟩ : ∃ j, n = k + j := ⟨n - k, by omega⟩
        obtain ⟨d₁, htokens₁, htree₁, hdepth₁⟩ := exists_loose j d
        obtain ⟨d₃, htokens₃, htree₃, hdepth₃⟩ := exists_extension hmem hk d₁ d₂
        have hdepth : d₃.depth ≤ levels := by
          rw [hdepth₃, hdepth₁]
          exact Nat.max_le.mpr ⟨hd, hd₂.depth⟩
        dsimp only at hok
        rw [← htree₁, ← htree₃] at hok
        obtain ⟨d', hd', htree', hs'⟩ := h.operationRest d₃ (by omega) hdepth hs₂ hok
        rw [htokens₃, htokens₁, List.append_assoc, List.cons_append, hd₂.tokens] at hd'
        exact ⟨d', hd', htree', hs'⟩
    next hnone =>
      cases hok
      refine exists_of_stops d hleast hd (stops_cons.mpr ?_)
      have ht := stops_cons.mp hs
      simp only [Phrase.continues, Bool.or_eq_false_iff] at ht ⊢
      exact ⟨ht.1, by rw [isOperatorOf, hnone]; rfl⟩
  next hmark =>
    cases hok
    refine exists_of_stops d hleast hd ?_
    intro t ht
    cases t with
    | mark m =>
        obtain ⟨ts₁, rfl⟩ := List.head?_eq_some_iff.mp ht
        exact absurd rfl (hmark m ts₁)
    | _ => rfl

theorem leading_succ {m : Mark} {o : UnaryOperator} (h : Derives fuel)
    (ho : (m, o) ∈ leadingOperators)
    (hok : (nested levels fun levels => do
      let (inner, rest) ← Expr.operand fuel levels ts
      pure (Expr.unary o inner, rest)) = .ok (e, rest)) :
    ∃ d : Derivation .operand, d.Covers levels (.mark m :: ts) rest ∧ d.tree = e ∧
      Stops .operand rest := by
  cases levels with
  | zero => cases hok
  | succ levels =>
      obtain ⟨⟨inner, ts₁⟩, hinner, hok⟩ := bind_eq_ok.mp hok
      obtain ⟨d, hd, rfl, hs⟩ := h.operand hinner
      cases hok
      exact ⟨leading ho d, ⟨by rw [← hd.tokens]; rfl, Nat.succ_le_succ hd.depth⟩, rfl, hs⟩

theorem operand_succ (h : Derives fuel)
    (hok : Expr.operand (fuel + 1) levels ts = .ok (e, rest)) :
    ∃ d : Derivation .operand, d.Covers levels ts rest ∧ d.tree = e ∧ Stops .operand rest := by
  unfold Expr.operand at hok
  split at hok
  next ts₁ => exact h.leading_succ (by decide) hok
  next ts₁ => exact h.leading_succ (by decide) hok
  next =>
    obtain ⟨⟨object, ts₁⟩, hobject, hok⟩ := bind_eq_ok.mp hok
    obtain ⟨d₁, hd₁, rfl⟩ := h.primary hobject
    obtain ⟨d₂, hd₂, rfl, hs⟩ := h.accesses hok
    refine ⟨accessed d₁ d₂, ⟨?_, Nat.max_le.mpr ⟨hd₁.depth, hd₂.depth⟩⟩, rfl, hs⟩
    rw [Derivation.tokens, List.append_assoc, hd₂.tokens, hd₁.tokens]

theorem accesses_succ {object : Expr} (h : Derives fuel)
    (hok : Expr.accesses (fuel + 1) levels object ts = .ok (e, rest)) :
    ∃ d : Derivation .accesses, d.Covers levels ts rest ∧ d.tree object = e ∧
      Stops .operand rest := by
  unfold Expr.accesses at hok
  split at hok
  next ts₁ =>
    split at hok
    next property ts₂ =>
      obtain ⟨d, hd, htree, hs⟩ := h.accesses hok
      exact ⟨.member property d, ⟨by rw [← hd.tokens]; rfl, hd.depth⟩, htree, hs⟩
    next => cases hok
  next ts₁ =>
    obtain ⟨⟨position, ts₂⟩, hposition, hok⟩ := bind_eq_ok.mp hok
    obtain ⟨d₁, hd₁, rfl⟩ := h.whole hposition
    dsimp only at hok
    obtain ⟨ts₃, hclose, hnext⟩ := bind_eq_ok.mp hok
    obtain rfl : ts₂ = .mark .closeBracket :: ts₃ := expect_eq_ok.mp hclose
    obtain ⟨d₂, hd₂, htree, hs⟩ := h.accesses hnext
    refine ⟨.index d₁ d₂, ⟨?_, Nat.max_le.mpr ⟨hd₁.depth, hd₂.depth⟩⟩, htree, hs⟩
    rw [← hd₁.tokens, ← hd₂.tokens]
    simp [Derivation.tokens]
  next ts₁ =>
    obtain ⟨⟨arguments, ts₂⟩, harguments, hok⟩ := bind_eq_ok.mp hok
    obtain ⟨d₁, hd₁, rfl⟩ := h.list (b := .round) harguments
    obtain ⟨d₂, hd₂, htree, hs⟩ := h.accesses hok
    refine ⟨.call d₁ d₂, ⟨?_, Nat.max_le.mpr ⟨hd₁.depth, hd₂.depth⟩⟩, htree, hs⟩
    rw [← hd₁.tokens, ← hd₂.tokens]
    simp [Derivation.tokens]
  next hdot hbracket hparen =>
    cases hok
    refine ⟨unchanged, ⟨rfl, Nat.zero_le levels⟩, rfl, ?_⟩
    intro t ht
    obtain ⟨ts₁, rfl⟩ := List.head?_eq_some_iff.mp ht
    cases t with
    | mark m =>
        cases m with
        | dot => exact absurd rfl (hdot ts₁)
        | openBracket => exact absurd rfl (hbracket ts₁)
        | openParen => exact absurd rfl (hparen ts₁)
        | _ => rfl
    | _ => rfl

theorem list_succ {b : Bracket} {es : List Expr} (h : Derives fuel)
    (hok : Expr.list (fuel + 1) levels b.closing ts = .ok (es, rest)) :
    ∃ d : Derivation (.listing b), d.Covers levels ts rest ∧ d.tree = es := by
  rw [Expr.list] at hok
  split at hok
  next hhead =>
    cases hok
    obtain ⟨ts₁, rfl⟩ := List.head?_eq_some_iff.mp hhead
    exact ⟨empty, ⟨rfl, Nat.zero_le levels⟩, rfl⟩
  next =>
    obtain ⟨first, more, htokens, rfl, hdepth⟩ := h.listItems hok
    refine ⟨items first more, ⟨?_, hdepth⟩, rfl⟩
    rw [Derivation.tokens, List.append_assoc, htokens]

theorem listItems_succ {b : Bracket} {es : List Expr} (h : Derives fuel)
    (hok : Expr.listItems (fuel + 1) levels b.closing ts = .ok (es, rest)) :
    ∃ (first : Derivation .whole) (more : Derivation (.others b)),
      first.tokens ++ (more.tokens ++ rest) = ts ∧ first.tree :: more.tree = es ∧
        max first.depth more.depth ≤ levels := by
  rw [Expr.listItems] at hok
  obtain ⟨⟨first, ts₁⟩, hfirst, hok⟩ := bind_eq_ok.mp hok
  obtain ⟨d₁, hd₁, rfl⟩ := h.whole hfirst
  dsimp only at hok
  split at hok
  next hhead =>
    cases hok
    obtain ⟨ts₂, rfl⟩ := List.head?_eq_some_iff.mp hhead
    exact ⟨d₁, close, hd₁.tokens, rfl, Nat.max_le.mpr ⟨hd₁.depth, Nat.zero_le levels⟩⟩
  next =>
    obtain ⟨ts₂, hcomma, hnext⟩ := bind_eq_ok.mp hok
    obtain rfl : ts₁ = .mark .comma :: ts₂ := expect_eq_ok.mp hcomma
    obtain ⟨⟨others, ts₃⟩, hothers, hend⟩ := bind_eq_ok.mp hnext
    cases hend
    obtain ⟨d₂, d₃, htokens, rfl, hdepth⟩ := h.listItems hothers
    refine ⟨d₁, comma d₂ d₃, ?_, rfl, Nat.max_le.mpr ⟨hd₁.depth, hdepth⟩⟩
    rw [← hd₁.tokens, ← htokens]
    simp [Derivation.tokens]

theorem primary_succ (h : Derives fuel)
    (hok : Expr.primary (fuel + 1) levels ts = .ok (e, rest)) :
    ∃ d : Derivation .primary, d.Covers levels ts rest ∧ d.tree = e := by
  unfold Expr.primary at hok
  split at hok
  next value ts₁ =>
    cases hok
    exact ⟨number value, ⟨rfl, Nat.zero_le levels⟩, rfl⟩
  next text ts₁ =>
    cases hok
    exact ⟨string text, ⟨rfl, Nat.zero_le levels⟩, rfl⟩
  next text ts₁ =>
    cases hok
    exact ⟨name text, ⟨rfl, Nat.zero_le levels⟩, rfl⟩
  next ts₁ =>
    obtain ⟨⟨inner, ts₂⟩, hinner, hok⟩ := bind_eq_ok.mp hok
    obtain ⟨d, hd, rfl⟩ := h.whole hinner
    dsimp only at hok
    obtain ⟨ts₃, hclose, hend⟩ := bind_eq_ok.mp hok
    obtain rfl : ts₂ = .mark .closeParen :: ts₃ := expect_eq_ok.mp hclose
    cases hend
    refine ⟨parens d, ⟨?_, hd.depth⟩, rfl⟩
    rw [← hd.tokens]
    simp [Derivation.tokens]
  next ts₁ =>
    obtain ⟨⟨items, ts₂⟩, hitems, hok⟩ := bind_eq_ok.mp hok
    obtain ⟨d, hd, rfl⟩ := h.list (b := .square) hitems
    cases hok
    exact ⟨.array d, ⟨by rw [← hd.tokens]; rfl, hd.depth⟩, rfl⟩
  next => cases hok

end Derives

/-- Whatever the steps read is derived. -/
theorem derives : ∀ fuel : Nat, Derives fuel
  | 0 => by
      constructor
      case whole => intro levels ts rest e h; rw [whole] at h; cases h
      case operation => intro levels least ts rest e hleast h; rw [operation] at h; cases h
      case operationRest =>
        intro levels least n ts rest e d hleast hd hs h; rw [operationRest] at h; cases h
      case operand => intro levels ts rest e h; rw [operand] at h; cases h
      case accesses => intro levels object ts rest e h; rw [accesses] at h; cases h
      case list => intro levels b ts rest es h; rw [list] at h; cases h
      case listItems => intro levels b ts rest es h; rw [listItems] at h; cases h
      case primary => intro levels ts rest e h; rw [primary] at h; cases h
  | fuel + 1 =>
      { whole := (derives fuel).whole_succ
        operation := (derives fuel).operation_succ
        operationRest := (derives fuel).operationRest_succ
        operand := (derives fuel).operand_succ
        accesses := (derives fuel).accesses_succ
        list := (derives fuel).list_succ
        listItems := (derives fuel).listItems_succ
        primary := (derives fuel).primary_succ }

/-! ## Acceptance -/

/-- The reader uses up a list of tokens and gives a tree exactly when the tree is what
a derivation of the tokens denotes in which no more than `maxNesting` levels of
nesting are open at once, and a list of tokens has one derivation at most. -/
theorem whole_eq_ok_iff (ts : List Token) :
    (∀ e : Expr, whole (fuel ts) maxNesting ts = .ok (e, []) ↔
      ∃ d : Derivation .whole, d.tokens = ts ∧ d.depth ≤ maxNesting ∧ d.tree = e) ∧
    ∀ d d' : Derivation .whole, d.tokens = ts → d'.tokens = ts → d = d' := by
  refine ⟨fun e => ⟨?_, ?_⟩, ?_⟩
  · intro h
    obtain ⟨d, hd, htree⟩ := (derives _).whole h
    exact ⟨d, by rw [← hd.tokens, List.append_nil], hd.depth, htree⟩
  · rintro ⟨d, rfl, hdepth, rfl⟩
    have h := d.reads (fuel d.tokens) maxNesting []
      (Nat.add_le_add_left (by decide) _) hdepth stops_nil
    rwa [List.append_nil] at h
  · intro d d' hd hd'
    have h : d.tokens ++ [] = d'.tokens ++ [] := by rw [hd, hd']
    exact (d.unique d' h stops_nil stops_nil).1

end Expr

end BundleConfig
