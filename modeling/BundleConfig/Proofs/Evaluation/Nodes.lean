import BundleConfig.Evaluation
import BundleConfig.Proofs.KeyPath.Graft

/-!
# The nodes of a tree

`collect` finds the *topmost* expression nodes: those that have no expression node
above them.  `mem_collect` says so, for distinct trees.  Two topmost nodes are
unrelated, since one of two related nodes is above the other.

`Nodes` keeps what the evaluation needs to know of a list of nodes.  Its proofs use
`Nodes` and not `collect`.
-/

namespace BundleConfig

namespace Evaluation

/-! ## Topmost nodes -/

/-- The node at the path is an expression node and none above it is one. -/
def Topmost (p : KeyPath) (v : Json) : Prop :=
  ((p.get? v).bind source?).isSome = true ∧
    ∀ q : KeyPath, q <+: p → q ≠ p → (q.get? v).bind source? = none

theorem topmost_nil {v : Json} : Topmost [] v ↔ (source? v).isSome = true := by
  constructor
  · intro h
    exact h.1
  · intro h
    refine ⟨h, ?_⟩
    intro q hq hne
    exact absurd (List.prefix_nil.mp hq) hne

theorem topmost_cons {s : Segment} {p : KeyPath} {v : Json} :
    Topmost (s :: p) v ↔ source? v = none ∧ ∃ w, KeyPath.step? v s = some w ∧ Topmost p w := by
  constructor
  · rintro ⟨hsource, habove⟩
    have hroot : source? v = none := habove [] List.nil_prefix (List.cons_ne_nil s p).symm
    rw [KeyPath.get?_cons] at hsource
    cases hw : KeyPath.step? v s with
    | none =>
        rw [hw] at hsource
        cases hsource
    | some w =>
        rw [hw] at hsource
        refine ⟨hroot, w, rfl, hsource, ?_⟩
        intro q hq hne
        have hcons := habove (s :: q) (List.cons_prefix_cons.mpr ⟨rfl, hq⟩)
          fun e => hne (List.cons.inj e).2
        rwa [KeyPath.get?_cons_of_step hw] at hcons
  · rintro ⟨hroot, w, hw, hsource, habove⟩
    refine ⟨by rwa [KeyPath.get?_cons_of_step hw], ?_⟩
    intro q hq hne
    cases q with
    | nil => exact hroot
    | cons t q =>
        obtain ⟨rfl, hrest⟩ := List.cons_prefix_cons.mp hq
        rw [KeyPath.get?_cons_of_step hw]
        exact habove q hrest fun e => hne (by rw [e])

/-- Two topmost nodes are the same or unrelated. -/
theorem Topmost.unrelated {p q : KeyPath} {v : Json} (hp : Topmost p v) (hq : Topmost q v)
    (hne : p ≠ q) : ¬ KeyPath.Related p q := by
  rintro (h | h)
  · have hnone := hq.2 p h hne
    have hsome := hp.1
    rw [hnone] at hsome
    cases hsome
  · have hnone := hp.2 q h (Ne.symm hne)
    have hsome := hq.1
    rw [hnone] at hsome
    cases hsome

/-! ## What is collected -/

mutual

/-- The collected paths are those of the topmost nodes. -/
theorem mem_collect : ∀ (v : Json) {top p : KeyPath}, v.Distinct →
    (p ∈ collect top v ↔ ∃ rest, p = top ++ rest ∧ Topmost rest v)
  | v, top, p, hd => by
      cases v with
      | object entries =>
          have hsource : source? (.object entries) = sourceOfEntries? entries := rfl
          rw [collect]
          split
          next h =>
            constructor
            · intro hp
              refine ⟨[], ?_, topmost_nil.mpr (hsource ▸ h)⟩
              rw [List.mem_singleton.mp hp, List.append_nil]
            · rintro ⟨rest, rfl, hrest⟩
              cases rest with
              | nil => rw [List.append_nil]; exact List.mem_singleton_self top
              | cons s rest =>
                  obtain ⟨hnone, -⟩ := topmost_cons.mp hrest
                  rw [← hsource, hnone] at h
                  cases h
          next h =>
            have hnone : source? (.object entries) = none := by
              rw [hsource]
              exact Option.not_isSome_iff_eq_none.mp h
            rw [mem_collectEntries entries hd]
            constructor
            · rintro ⟨key, rest, w, hw, rfl, hrest⟩
              exact ⟨.key key :: rest, rfl, topmost_cons.mpr ⟨hnone, w, hw, hrest⟩⟩
            · rintro ⟨rest, rfl, hrest⟩
              cases rest with
              | nil =>
                  rw [topmost_nil, hnone] at hrest
                  cases hrest
              | cons s rest =>
                  obtain ⟨-, w, hw, hbelow⟩ := topmost_cons.mp hrest
                  cases s with
                  | key key => exact ⟨key, rest, w, hw, rfl, hbelow⟩
                  | index position => cases hw
      | array items =>
          rw [collect, mem_collectItems items hd]
          constructor
          · rintro ⟨i, rest, w, hw, rfl, hrest⟩
            rw [Nat.zero_add]
            exact ⟨.index i :: rest, rfl, topmost_cons.mpr ⟨rfl, w, hw, hrest⟩⟩
          · rintro ⟨rest, rfl, hrest⟩
            cases rest with
            | nil => cases topmost_nil.mp hrest
            | cons s rest =>
                obtain ⟨-, w, hw, hbelow⟩ := topmost_cons.mp hrest
                cases s with
                | key key => cases hw
                | index i => exact ⟨i, rest, w, hw, by rw [Nat.zero_add], hbelow⟩
      | _ =>
          constructor
          · intro hp
            cases hp
          · rintro ⟨rest, rfl, hrest⟩
            cases rest with
            | nil => cases topmost_nil.mp hrest
            | cons s rest =>
                obtain ⟨-, w, hw, -⟩ := topmost_cons.mp hrest
                cases s <;> cases hw
termination_by structural v => v

theorem mem_collectItems : ∀ (items : List Json) {top p : KeyPath} {position : Nat},
    Json.DistinctItems items → (p ∈ collectItems top position items ↔
      ∃ i rest w, items[i]? = some w ∧ p = top ++ .index (position + i) :: rest ∧ Topmost rest w)
  | [], top, p, position, _ => by
      constructor
      · intro hp
        cases hp
      · rintro ⟨i, rest, w, hw, -⟩
        cases hw
  | v :: others, top, p, position, hd => by
      rw [collectItems, List.mem_append, mem_collect v hd.1, mem_collectItems others hd.2]
      constructor
      · rintro (⟨rest, rfl, hrest⟩ | ⟨i, rest, w, hw, rfl, hrest⟩)
        · exact ⟨0, rest, v, rfl, KeyPath.child_append _ _ _, hrest⟩
        · refine ⟨i + 1, rest, w, hw, ?_, hrest⟩
          rw [show position + (i + 1) = position + 1 + i by omega]
      · rintro ⟨i, rest, w, hw, rfl, hrest⟩
        cases i with
        | zero =>
            cases hw
            exact Or.inl ⟨rest, (KeyPath.child_append _ _ _).symm, hrest⟩
        | succ i =>
            refine Or.inr ⟨i, rest, w, hw, ?_, hrest⟩
            rw [show position + (i + 1) = position + 1 + i by omega]
termination_by structural items => items

theorem mem_collectEntries : ∀ (entries : List (String × Json)) {top p : KeyPath},
    (Json.object entries).Distinct → (p ∈ collectEntries top entries ↔
      ∃ key rest w, Table.get? entries key = some w ∧ p = top ++ .key key :: rest ∧
        Topmost rest w)
  | [], top, p, _ => by
      constructor
      · intro hp
        cases hp
      · rintro ⟨key, rest, w, hw, -⟩
        cases hw
  | (k, v) :: others, top, p, hd => by
      obtain ⟨hnodup, hdv, hdothers⟩ := hd
      obtain ⟨hnotin, hnodup⟩ := List.nodup_cons.mp hnodup
      rw [collectEntries, List.mem_append, mem_collect v hdv,
        mem_collectEntries others ⟨hnodup, hdothers⟩]
      constructor
      · rintro (⟨rest, rfl, hrest⟩ | ⟨key, rest, w, hw, rfl, hrest⟩)
        · exact ⟨k, rest, v, by simp, KeyPath.child_append _ _ _, hrest⟩
        · refine ⟨key, rest, w, ?_, rfl, hrest⟩
          have hne : k ≠ key := by
            rintro rfl
            rw [Table.get?_eq_none_iff.mpr hnotin] at hw
            cases hw
          rw [Table.get?_cons, if_neg hne]
          exact hw
      · rintro ⟨key, rest, w, hw, rfl, hrest⟩
        rw [Table.get?_cons] at hw
        by_cases hk : k = key
        · rw [if_pos hk] at hw
          cases hw
          subst hk
          exact Or.inl ⟨rest, (KeyPath.child_append _ _ _).symm, hrest⟩
        · rw [if_neg hk] at hw
          exact Or.inr ⟨key, rest, w, hw, rfl, hrest⟩
termination_by structural entries => entries

end

/-! ## Lists of nodes -/

/-- The paths of a list lead to expression nodes of a tree that are unrelated. -/
structure Nodes (tree : Json) (nodes : List KeyPath) : Prop where
  /-- Two nodes are the same or unrelated. -/
  apart : KeyPath.Apart nodes
  /-- Every node has an expression. -/
  source : ∀ n ∈ nodes, ((n.get? tree).bind source?).isSome = true

/-- The collected paths lead to unrelated expression nodes. -/
theorem nodes_collect {tree : Json} (hd : tree.Distinct) : Nodes tree (collect [] tree) := by
  have htop : ∀ p ∈ collect [] tree, Topmost p tree := by
    intro p hp
    obtain ⟨rest, rfl, hrest⟩ := (mem_collect tree hd).mp hp
    exact hrest
  constructor
  · intro p hp q hq hne
    exact (htop p hp).unrelated (htop q hq) hne
  · intro n hn
    exact (htop n hn).1

end Evaluation

end BundleConfig
