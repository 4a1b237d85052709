import BundleConfig.Proofs.KeyPath.Writing

/-!
# Document order

The nodes of a tree are met in document order: a node, then the nodes below it, those
below an earlier item or entry before those below a later one.  `Json.paths` lists the
paths of the nodes in that order, and `Json.FirstPath` picks the first node with a
property.
-/

namespace BundleConfig

namespace Json

mutual

/-- The paths of the nodes of a tree in document order. -/
def paths : Json → List KeyPath
  | array items => [] :: pathsOfItems 0 items
  | object entries => [] :: pathsOfEntries entries
  | _ => [[]]
termination_by structural v => v

/-- The paths of the nodes in the items of an array, from a position on. -/
def pathsOfItems (position : Nat) : List Json → List KeyPath
  | [] => []
  | v :: rest => (paths v).map (.index position :: ·) ++ pathsOfItems (position + 1) rest
termination_by structural items => items

/-- The paths of the nodes in the entries of a mapping. -/
def pathsOfEntries : List (String × Json) → List KeyPath
  | [] => []
  | (key, v) :: rest => (paths v).map (.key key :: ·) ++ pathsOfEntries rest
termination_by structural entries => entries

end

/-- The path leads to a node with the property, the first in document order. -/
def FirstPath (P : KeyPath → Prop) (v : Json) (p : KeyPath) : Prop :=
  P p ∧ ∃ before after, v.paths = before ++ p :: after ∧ ∀ q ∈ before, ¬ P q

theorem paths_scalar {v : Json} (ho : v.isObject = false) (ha : v.isArray = false) :
    v.paths = [[]] := by
  cases v with
  | array items => cases ha
  | object entries => cases ho
  | _ => rfl

/-- A path below entries starts with one of their keys. -/
theorem eq_key_of_mem_pathsOfEntries {entries : List (String × Json)} {p : KeyPath}
    (h : p ∈ pathsOfEntries entries) :
    ∃ key rest, p = .key key :: rest ∧ key ∈ Table.keys entries := by
  induction entries with
  | nil => cases h
  | cons entry others ih =>
      obtain ⟨key, v⟩ := entry
      rw [pathsOfEntries, List.mem_append] at h
      rcases h with h | h
      · obtain ⟨rest, -, rfl⟩ := List.mem_map.mp h
        exact ⟨key, rest, rfl, List.mem_cons_self⟩
      · obtain ⟨other, rest, rfl, hmem⟩ := ih h
        exact ⟨other, rest, rfl, List.mem_cons_of_mem _ hmem⟩

theorem mem_pathsOfEntries {entries : List (String × Json)} {key : String} {v : Json}
    {p : KeyPath} (hv : Table.get? entries key = some v) (hp : p ∈ v.paths) :
    .key key :: p ∈ pathsOfEntries entries := by
  induction entries with
  | nil => cases hv
  | cons entry rest ih =>
      obtain ⟨k, w⟩ := entry
      rw [pathsOfEntries, List.mem_append]
      rw [Table.get?_cons] at hv
      by_cases hk : k = key
      · rw [if_pos hk] at hv
        cases hv
        rw [hk]
        exact Or.inl (List.mem_map_of_mem hp)
      · rw [if_neg hk] at hv
        exact Or.inr (ih hv)

theorem mem_pathsOfItems {items : List Json} {position i : Nat} {v : Json} {p : KeyPath}
    (hv : items[i]? = some v) (hp : p ∈ v.paths) :
    .index (position + i) :: p ∈ pathsOfItems position items := by
  induction items generalizing position i with
  | nil => cases hv
  | cons w rest ih =>
      rw [pathsOfItems, List.mem_append]
      cases i with
      | zero =>
          cases hv
          exact Or.inl (List.mem_map_of_mem hp)
      | succ i =>
          rw [show position + (i + 1) = position + 1 + i by omega]
          exact Or.inr (ih hv)

/-- Along an array, what is left from a position on begins with the item there. -/
theorem step?_of_drop {all rest : List Json} {position : Nat} {v : Json}
    (h : all.drop position = v :: rest) :
    KeyPath.step? (.array all) (.index position) = some v ∧ all.drop (position + 1) = rest := by
  constructor
  · have hget : (all.drop position)[0]? = all[position + 0]? := List.getElem?_drop
    rw [h] at hget
    exact hget.symm
  · rw [← List.drop_drop, h, List.drop_one, List.tail_cons]

/-- Every node has its path in document order. -/
theorem mem_paths {p : KeyPath} {v w : Json} (h : p.get? v = some w) : p ∈ v.paths := by
  induction p generalizing v with
  | nil => cases v <;> exact List.mem_cons_self
  | cons s rest ih =>
      obtain ⟨child, hstep, hrest⟩ := Option.bind_eq_some_iff.mp h
      have hchild : rest ∈ child.paths := ih hrest
      cases s with
      | key name =>
          cases v with
          | object entries => exact List.mem_cons_of_mem _ (mem_pathsOfEntries hstep hchild)
          | _ => cases hstep
      | index i =>
          cases v with
          | array items =>
              have hmem : .index (0 + i) :: rest ∈ pathsOfItems 0 items :=
                mem_pathsOfItems hstep hchild
              rw [Nat.zero_add] at hmem
              exact List.mem_cons_of_mem _ hmem
          | _ => cases hstep

end Json

end BundleConfig
