import BundleConfig.Proofs.Merge.Conflicts

/-!
# Results merged again

A tree that was merged onto nothing is merged onto nothing once more.  The first merge left
no directive in it, so the second one changes nothing (`mergeOnto_again`), if it succeeds.

It could only fail because the tree nests too deep.  How deep a tree nests is what
`Json.levels` counts.  That a result fits below its level is a stable property: a merge that
succeeds goes no deeper than `maxLevels`, and an operand of a directive is merged one level
below the node that takes it.
-/

namespace BundleConfig

namespace Json

mutual

/-- How many levels a tree has below its root. -/
def levels : Json → Nat
  | array items => levelsOfItems items
  | object entries => levelsOfEntries entries
  | _ => 0
termination_by structural v => v

/-- How many levels the deepest item adds. -/
def levelsOfItems : List Json → Nat
  | [] => 0
  | v :: rest => max (levels v + 1) (levelsOfItems rest)
termination_by structural items => items

/-- How many levels the deepest entry adds. -/
def levelsOfEntries : List (String × Json) → Nat
  | [] => 0
  | (_, v) :: rest => max (levels v + 1) (levelsOfEntries rest)
termination_by structural entries => entries

end

theorem levels_array_le_iff {items : List Json} {n : Nat} :
    (array items).levels ≤ n ↔ ∀ v ∈ items, v.levels + 1 ≤ n := by
  rw [levels]
  induction items with
  | nil => simp [levelsOfItems]
  | cons v rest ih => rw [levelsOfItems, Nat.max_le, ih, List.forall_mem_cons]

theorem levels_object_le_iff {entries : List (String × Json)} {n : Nat} :
    (object entries).levels ≤ n ↔ ∀ e ∈ entries, e.2.levels + 1 ≤ n := by
  rw [levels]
  induction entries with
  | nil => simp [levelsOfEntries]
  | cons e rest ih =>
      obtain ⟨key, v⟩ := e
      rw [levelsOfEntries, Nat.max_le, ih, List.forall_mem_cons]

theorem levels_scalar {v : Json} (ho : v.isObject = false) (ha : v.isArray = false) :
    v.levels = 0 := by
  cases v with
  | array items => cases ha
  | object entries => cases ho
  | _ => rfl

mutual

/-- No path is longer than the tree has levels. -/
theorem length_le_levels : ∀ (v : Json) {p : KeyPath}, p ∈ v.paths → p.length ≤ v.levels
  | v, p, h => by
      cases v with
      | array items =>
          rcases List.mem_cons.mp h with rfl | h
          · exact Nat.zero_le _
          · exact length_le_levelsOfItems items h
      | object entries =>
          rcases List.mem_cons.mp h with rfl | h
          · exact Nat.zero_le _
          · exact length_le_levelsOfEntries entries h
      | _ =>
          obtain rfl := List.mem_singleton.mp h
          exact Nat.zero_le _
termination_by structural v => v

theorem length_le_levelsOfItems : ∀ (items : List Json) {position : Nat} {p : KeyPath},
    p ∈ pathsOfItems position items → p.length ≤ levelsOfItems items
  | [], _, _, h => by cases h
  | v :: rest, _, _, h => by
      rw [levelsOfItems]
      rcases List.mem_append.mp h with h | h
      · obtain ⟨q, hq, rfl⟩ := List.mem_map.mp h
        exact Nat.le_trans (Nat.succ_le_succ (length_le_levels v hq)) (Nat.le_max_left _ _)
      · exact Nat.le_trans (length_le_levelsOfItems rest h) (Nat.le_max_right _ _)
termination_by structural items => items

theorem length_le_levelsOfEntries : ∀ (entries : List (String × Json)) {p : KeyPath},
    p ∈ pathsOfEntries entries → p.length ≤ levelsOfEntries entries
  | [], _, h => by cases h
  | (_, v) :: rest, _, h => by
      rw [levelsOfEntries]
      rcases List.mem_append.mp h with h | h
      · obtain ⟨q, hq, rfl⟩ := List.mem_map.mp h
        exact Nat.le_trans (Nat.succ_le_succ (length_le_levels v hq)) (Nat.le_max_left _ _)
      · exact Nat.le_trans (length_le_levelsOfEntries rest h) (Nat.le_max_right _ _)
termination_by structural entries => entries

end

end Json

namespace Merge

/-- To end above the deepest level is stable. -/
theorem stable_levels : Stable fun depth v => depth + v.levels ≤ maxLevels where
  scalar := by
    intro depth v hdepth ho ha
    rw [Json.levels_scalar ho ha]
    exact hdepth
  array_iff := by
    intro depth items hdepth
    have hle : depth + (Json.array items).levels ≤ maxLevels ↔
        (Json.array items).levels ≤ maxLevels - depth := by omega
    rw [hle, Json.levels_array_le_iff]
    apply forall_congr'
    intro v
    apply imp_congr_right
    intro _
    omega
  empty := id
  of_get? := by
    intro depth fields key v h hv
    have hle : (Json.object fields).levels ≤ maxLevels - depth := by omega
    have hv := Json.levels_object_le_iff.mp hle _ (Table.mem_of_get? hv)
    dsimp only at hv
    omega
  insert := by
    intro depth fields key v h _ hv
    have hle : (Json.object (fields.insert key v)).levels ≤ maxLevels - depth := by
      rw [Json.levels_object_le_iff]
      intro e he
      rcases Table.mem_of_mem_insert he with he | rfl
      · have hfields : (Json.object fields).levels ≤ maxLevels - depth := by omega
        exact Json.levels_object_le_iff.mp hfields e he
      · dsimp only
        omega
    omega
  erase := by
    intro depth fields key h
    have hle : (Json.object (fields.erase key)).levels ≤ maxLevels - depth := by
      rw [Json.levels_object_le_iff]
      intro e he
      have hfields : (Json.object fields).levels ≤ maxLevels - depth := by omega
      exact Json.levels_object_le_iff.mp hfields e (Table.mem_of_mem_erase he)
    omega
  raise := by
    intro depth v h
    omega

/-- The tree is well-formed, has no directive and does not nest too deep at its level. -/
structure Settled (depth : Nat) (v : Json) : Prop where
  /-- No key is a directive. -/
  directiveFree : DirectiveFree v
  /-- No mapping has a key twice. -/
  distinct : v.Distinct
  /-- The tree ends above the deepest level. -/
  levels : depth + v.levels ≤ maxLevels

variable {depth : Nat} {path : KeyPath} {target layer r v : Json}

theorem settled_null (hdepth : depth ≤ maxLevels) : Settled depth .null :=
  ⟨stable_directiveFree.null hdepth, trivial, hdepth⟩

/-- A layer leaves a settled tree settled. -/
theorem Settled.merge (ht : Settled depth target)
    (h : mergeOnto depth path target layer = .ok r) : Settled depth r where
  directiveFree := mergeOnto_directiveFree layer ht.directiveFree h
  distinct := mergeOnto_distinct layer ht.distinct h
  levels := mergeOnto_stable stable_levels layer (fun _ => ht.levels) h

/-- A settled tree is the result of merging it onto nothing. -/
theorem Settled.again (hv : Settled depth v) (path : KeyPath) :
    mergeOnto depth path .null v = .ok v := by
  obtain ⟨hf, hd, hlevels⟩ := hv
  have hnone : fault? (mergeOnto depth path .null v) = none := by
    rw [fault?_mergeOnto v hf hd, List.findSome?_eq_none_iff]
    intro p hp
    have hlength := Json.length_le_levels v hp
    have hclash : ∀ w, clash (metAt p .null) w = none := by
      intro w
      rw [metAt_null]
      cases w with
      | object entries => cases entries <;> rfl
      | _ => rfl
    rw [faultAt, if_neg (by omega)]
    cases p.get? v with
    | none => rfl
    | some w => rw [Option.bind_some, hclash, Option.map_none]
  obtain ⟨r, hr⟩ := fault?_eq_none_iff.mp hnone
  rw [hr, mergeOnto_null_eq v hf hd hr]

/-- What was merged onto nothing stays the same when it is merged onto nothing once more. -/
theorem mergeOnto_again (h : mergeOnto depth path .null layer = .ok r) (path' : KeyPath) :
    mergeOnto depth path' .null r = .ok r :=
  ((settled_null (mergeOnto_depth h)).merge h).again path'

end Merge

end BundleConfig
