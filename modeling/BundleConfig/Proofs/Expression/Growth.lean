import BundleConfig.Proofs.Expression.Height
import BundleConfig.Proofs.Expression.Tokens

/-!
# Trees that grow with their text

A *link* is what can follow an expression any number of times without opening a level of
nesting that stays open: an operator with its right side, a member, an index or a call.  A
chain of links is read as a tree that is one step higher for each link (`ofText_chainText`).

So there is no number that bounds the height of all trees that are read (`height_unbounded`),
and each kind of link is a reason by itself.
-/

namespace BundleConfig

/-! ## Texts in tokens -/

namespace Token

variable {c : Char} {cs : List Char} {ts : List Token}

theorem Scans.name (hcs : Ends continuesIdentifier cs) (h : Scans cs ts) :
    Scans ('a' :: cs) (.identifier "a" :: ts) := by
  have hnext : next 'a' ([] ++ cs) = .ok (.identifier "a", cs) := next_name (by decide) nofun hcs
  exact .token rfl hnext (Nat.le_refl _) h

/-- A mark of one character that no other mark starts with. -/
theorem Scans.mark {m : Mark} (hblank : Text.isBlank c = false)
    (hnext : next c cs = .ok (.mark m, cs)) (h : Scans cs ts) : Scans (c :: cs) (.mark m :: ts) :=
  .token hblank hnext (Nat.le_refl _) h

end Token

namespace Expr

/-! ## Links -/

/-- What can follow an expression again and again. -/
inductive Link
  /-- An operator with its right side. -/
  | sum
  /-- A member. -/
  | member
  /-- An index. -/
  | index
  /-- A call. -/
  | call

namespace Link

/-- How the link is written. -/
def chars : Link → List Char
  | sum => ['+', 'a']
  | member => ['.', 'a']
  | index => ['[', 'a', ']']
  | call => ['(', ')']

/-- The tokens of the link. -/
def tokens : Link → List Token
  | sum => [.mark .plus, .identifier "a"]
  | member => [.mark .dot, .identifier "a"]
  | index => [.mark .openBracket, .identifier "a", .mark .closeBracket]
  | call => [.mark .openParen, .mark .closeParen]

/-- The tree of an expression with the link behind it. -/
def node : Link → Expr → Expr
  | sum, e => .binary .add e (.identifier "a")
  | member, e => .member e "a"
  | index, e => .index e (.identifier "a")
  | call, e => .call e []

end Link

/-- A name with a number of links behind it. -/
def chainText (l : Link) (n : Nat) : String :=
  String.ofList ('a' :: (List.replicate n l.chars).flatten)

/-- The tree of a name with a number of links behind it. -/
def chainTree (l : Link) (n : Nat) : Expr := l.node^[n] (.identifier "a")

variable {cs : List Char} {ts : List Token}

open Token (Scans Ends continuesIdentifier)

theorem Link.ends (l : Link) (cs : List Char) : Ends continuesIdentifier (l.chars ++ cs) := by
  cases l <;> exact Token.ends_cons.mpr (by decide)

/-- A link is scanned as its tokens. -/
theorem Link.scans (l : Link) (hcs : Ends continuesIdentifier cs) (h : Scans cs ts) :
    Scans (l.chars ++ cs) (l.tokens ++ ts) := by
  cases l with
  | sum => exact .mark rfl rfl (.name hcs h)
  | member => exact .mark rfl rfl (.name hcs h)
  | index => exact .mark rfl rfl (.name (Token.ends_cons.mpr (by decide)) (.mark rfl rfl h))
  | call => exact .mark rfl rfl (.mark rfl rfl h)

theorem Link.scans_replicate (l : Link) (n : Nat) :
    Ends continuesIdentifier (List.replicate n l.chars).flatten ∧
      Scans (List.replicate n l.chars).flatten (List.replicate n l.tokens).flatten := by
  induction n with
  | zero => exact ⟨nofun, Token.scans_nil⟩
  | succ n ih =>
      rw [List.replicate_succ, List.replicate_succ, List.flatten_cons, List.flatten_cons]
      exact ⟨l.ends _, l.scans ih.1 ih.2⟩

/-- The tokens of a chain. -/
theorem ofText_chainTokens (l : Link) (n : Nat) : Token.ofText (chainText l n) =
    .ok (.identifier "a" :: (List.replicate n l.tokens).flatten) := by
  obtain ⟨hends, hscans⟩ := l.scans_replicate n
  apply Scans.ofText
  rw [chainText, String.toList_ofList]
  exact .name hends hscans

/-! ## Derivations of chains -/

/-- The name is on every level. -/
theorem exists_name (k : Nat) : ∀ n, n + k = 6 → ∃ d : Derivation (.level n),
    d.tokens = [.identifier "a"] ∧ d.tree = .identifier "a" ∧ d.depth = 0 := by
  rintro n hn
  have hlevel : ∃ d : Derivation (.level (n + k)),
      d.tokens = [.identifier "a"] ∧ d.tree = .identifier "a" ∧ d.depth = 0 := by
    rw [hn]
    exact ⟨.single (.accessed (.name "a") .unchanged), rfl, rfl, rfl⟩
  obtain ⟨d, htokens, htree, hdepth⟩ := hlevel
  obtain ⟨d', htokens', htree', hdepth'⟩ := Derivation.exists_loose k d
  exact ⟨d', htokens'.trans htokens, htree'.trans htree, hdepth'.trans hdepth⟩

/-- Accesses and calls open a level of nesting at most, however many there are. -/
theorem exists_accesses {l : Link} (hl : l ≠ .sum) (n : Nat) : ∃ more : Derivation .accesses,
    more.tokens = (List.replicate n l.tokens).flatten ∧
      (∀ object, more.tree object = l.node^[n] object) ∧ more.depth ≤ 1 := by
  induction n with
  | zero => exact ⟨.unchanged, rfl, fun _ => rfl, Nat.zero_le 1⟩
  | succ n ih =>
      obtain ⟨more, htokens, htree, hdepth⟩ := ih
      rw [List.replicate_succ, List.flatten_cons, ← htokens]
      simp only [Function.iterate_succ_apply, ← htree]
      cases l with
      | sum => exact absurd rfl hl
      | member => exact ⟨.member "a" more, rfl, fun _ => rfl, hdepth⟩
      | index =>
          obtain ⟨position, hposition, hname, hzero⟩ := exists_name 6 0 rfl
          refine ⟨.index (.plain position) more, ?_, fun object => ?_, ?_⟩
          · simp [hposition, Link.tokens]
          · simp [hname, Link.node]
          · simp [hzero, hdepth]
      | call => exact ⟨.call .empty more, rfl, fun _ => rfl, by simpa using hdepth⟩

/-- Operators of one level open none. -/
theorem exists_sum (n : Nat) : ∃ d : Derivation (.level 4),
    d.tokens = .identifier "a" :: (List.replicate n Link.sum.tokens).flatten ∧
      d.tree = chainTree .sum n ∧ d.depth = 0 := by
  induction n with
  | zero => exact exists_name 2 4 rfl
  | succ n ih =>
      obtain ⟨d, htokens, htree, hdepth⟩ := ih
      obtain ⟨right, hright, hname, hzero⟩ := exists_name 1 5 rfl
      have hplus : (Mark.plus, Operator.binary .add) ∈ operators 4 := by decide
      obtain ⟨d', htokens', htree', hdepth'⟩ :=
        Derivation.exists_extension hplus (by decide) d right
      refine ⟨d', ?_, ?_, ?_⟩
      · rw [htokens', htokens, hright, List.replicate_succ', List.flatten_concat]
        rfl
      · rw [htree', htree, hname, chainTree, chainTree, Function.iterate_succ_apply']
        rfl
      · rw [hdepth', hdepth, hzero]
        rfl

/-- A chain is derived with two open levels at most. -/
theorem exists_chain (l : Link) (n : Nat) : ∃ d : Derivation .whole,
    d.tokens = .identifier "a" :: (List.replicate n l.tokens).flatten ∧
      d.tree = chainTree l n ∧ d.depth ≤ 2 := by
  have hlevel : ∃ d : Derivation (.level 4),
      d.tokens = .identifier "a" :: (List.replicate n l.tokens).flatten ∧
        d.tree = chainTree l n ∧ d.depth ≤ 1 := by
    by_cases hl : l = .sum
    · obtain ⟨d, htokens, htree, hdepth⟩ := exists_sum n
      exact ⟨d, hl ▸ htokens, hl ▸ htree, hdepth ▸ Nat.zero_le 1⟩
    · obtain ⟨more, htokens, htree, hdepth⟩ := exists_accesses hl n
      obtain ⟨d, htokens', htree', hdepth'⟩ := Derivation.exists_loose (n := 4) 2
        (.single (.accessed (.name "a") more))
      refine ⟨d, ?_, ?_, ?_⟩
      · rw [htokens', ← htokens]
        rfl
      · rw [htree']
        exact htree _
      · rw [hdepth']
        simpa using hdepth
  obtain ⟨d, htokens, htree, hdepth⟩ := hlevel
  obtain ⟨d', htokens', htree', hdepth'⟩ := Derivation.exists_loose (n := 0) 4 d
  refine ⟨.plain d', htokens'.trans htokens, htree'.trans htree, ?_⟩
  rw [Derivation.depth, hdepth']
  omega

/-! ## Heights of chains -/

/-- A chain is read as its tree. -/
theorem ofText_chainText (l : Link) (n : Nat) : ofText (chainText l n) = .ok (chainTree l n) := by
  obtain ⟨d, htokens, htree, hdepth⟩ := exists_chain l n
  refine ofText_eq_ok_iff.mpr ⟨d, ?_, Nat.le_trans hdepth (by decide), htree⟩
  rw [ofText_chainTokens, htokens]

/-- A link makes a tree higher by one step. -/
theorem Link.height_node (l : Link) (e : Expr) : (l.node e).height = e.height + 1 := by
  cases l <;> simp [Link.node, height, extent, extentOfItems]

theorem height_chainTree (l : Link) (n : Nat) : (chainTree l n).height = n := by
  induction n with
  | zero => rfl
  | succ n ih => rw [chainTree, Function.iterate_succ_apply', l.height_node, ← chainTree, ih]

/-- No number bounds the heights of all trees that are read. -/
theorem height_unbounded :
    ¬ ∃ bound, ∀ source e, ofText source = .ok e → e.height ≤ bound := by
  rintro ⟨bound, h⟩
  have hhigh := h _ _ (ofText_chainText .sum (bound + 1))
  rw [height_chainTree] at hhigh
  exact Nat.not_succ_le_self bound hhigh

end Expr

end BundleConfig
