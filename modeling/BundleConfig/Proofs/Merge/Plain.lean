import BundleConfig.Proofs.KeyPath.Writing
import BundleConfig.Proofs.Merge.Directives

/-!
# Plain layers

What a merge does with a mapping that has no directive.  Its keys keep their place
in the target and new keys follow in their order.  A key of the layer gets the
merge of its value onto the old one, and every other key keeps its value.

`mergeOnto_null_eq` says that a whole layer without directives, merged onto
nothing, is the result.  So items of an array come out as they are.
-/

namespace BundleConfig

namespace Merge

/-! ## Entries without directives -/

/-- No entry is a directive. -/
def NoDirective (entries : List (String × Json)) : Prop :=
  ∀ e ∈ entries, isDirective e.1 = false

instance (entries : List (String × Json)) : Decidable (NoDirective entries) :=
  inferInstanceAs (Decidable (∀ e ∈ entries, isDirective e.1 = false))

theorem noDirective_cons {key : String} {v : Json} {rest : List (String × Json)} :
    NoDirective ((key, v) :: rest) ↔ isDirective key = false ∧ NoDirective rest :=
  List.forall_mem_cons

theorem DirectiveFree.noDirective {entries : List (String × Json)}
    (h : DirectiveFree (.object entries)) : NoDirective entries :=
  fun e he => (directiveFree_object.mp h e he).1

theorem get?_of_noDirective {directive : String} (hd : isDirective directive = true)
    {entries : List (String × Json)} (h : NoDirective entries) :
    Table.get? entries directive = none := by
  cases hv : Table.get? entries directive with
  | none => rfl
  | some v =>
      have hmem := h _ (Table.mem_of_get? hv)
      rw [hd] at hmem
      cases hmem

theorem replacement_of_noDirective {depth : Nat} {path : KeyPath}
    {entries : List (String × Json)} (h : NoDirective entries) :
    replacement depth path entries = .ok none := by
  rw [replacement_eq, get?_of_noDirective (by decide) h]

theorem additions_of_noDirective {directive : String} (hd : isDirective directive = true)
    {depth : Nat} {path : KeyPath} {entries : List (String × Json)} (h : NoDirective entries) :
    additions directive depth path entries = none := by
  rw [additions_eq, get?_of_noDirective hd h, Option.map_none]

variable {depth : Nat} {path : KeyPath} {target r : Json}

/-- A mapping without directives merges its entries into the target's mapping. -/
theorem mergeOnto_plainObject {entries : List (String × Json)} (hp : NoDirective entries)
    (h : mergeOnto depth path target (.object entries) = .ok r) :
    ∃ merged, mergeEntries (depth + 1) path (target.entries?.getD []) entries = .ok merged ∧
      r = .object merged := by
  obtain ⟨t, ht, h⟩ := mergeOnto_object h
  rw [replacement_of_noDirective hp, get?_of_noDirective (by decide) hp,
    additions_of_noDirective (by decide) hp, additions_of_noDirective (by decide) hp] at ht
  cases ht
  rcases h with ⟨hall, hr⟩ | ⟨-, fields, merged, hfields, hmerged, hr⟩
  · cases entries with
    | nil =>
        refine ⟨_, rfl, hr.trans ?_⟩
        cases target <;> rfl
    | cons entry rest =>
        have hfirst := hp entry List.mem_cons_self
        simp [hfirst] at hall
  · rw [mappingTarget_eq hfields] at hmerged
    exact ⟨merged, hmerged, hr⟩

/-! ## The entries of a plain mapping -/

/-- Merging entries keeps the keys and adds the new ones at the end. -/
theorem mergeEntries_keys {fields merged : Table Json} {entries : List (String × Json)}
    (hp : NoDirective entries) (hn : (Table.keys entries).Nodup)
    (h : mergeEntries depth path fields entries = .ok merged) :
    merged.keys = fields.keys ++ (Table.keys entries).filter (· ∉ fields.keys) := by
  induction entries generalizing fields with
  | nil =>
      cases h
      simp
  | cons entry rest ih =>
      obtain ⟨key, v⟩ := entry
      obtain ⟨hk, hrest⟩ := noDirective_cons.mp hp
      obtain ⟨hnotin, hn⟩ := List.nodup_cons.mp hn
      obtain ⟨new, -, h⟩ := mergeEntries_entry hk h
      rw [ih hrest hn h, Table.keys_insert, Table.keys_cons]
      by_cases hold : key ∈ fields.keys
      · rw [if_pos hold, List.filter_cons_of_neg (by simpa using hold)]
      · rw [if_neg hold, List.filter_cons_of_pos (by simpa using hold), List.append_assoc,
          List.singleton_append]
        have hsame : (Table.keys rest).filter (· ∉ fields.keys ++ [key]) =
            (Table.keys rest).filter (· ∉ fields.keys) := by
          apply List.filter_congr
          intro other hother
          have hne : other ≠ key := fun e => hnotin (e ▸ hother)
          simp [hne]
        rw [hsame]

/-- A key that the entries do not have keeps its value. -/
theorem mergeEntries_get?_of_none {fields merged : Table Json} {entries : List (String × Json)}
    (hp : NoDirective entries) (h : mergeEntries depth path fields entries = .ok merged)
    {key : String} (hkey : Table.get? entries key = none) :
    merged.get? key = fields.get? key := by
  induction entries generalizing fields with
  | nil =>
      cases h
      rfl
  | cons entry rest ih =>
      obtain ⟨k, v⟩ := entry
      obtain ⟨hk, hrest⟩ := noDirective_cons.mp hp
      obtain ⟨new, -, h⟩ := mergeEntries_entry hk h
      have hne : key ≠ k := by
        rintro rfl
        simp at hkey
      rw [Table.get?_cons, if_neg (Ne.symm hne)] at hkey
      rw [ih hrest h hkey, Table.get?_insert_of_ne fields new hne]

/-- A key that the entries have gets the merge of its value onto the old one. -/
theorem mergeEntries_get?_of_some {fields merged : Table Json} {entries : List (String × Json)}
    (hp : NoDirective entries) (hn : (Table.keys entries).Nodup)
    (h : mergeEntries depth path fields entries = .ok merged)
    {key : String} {v : Json} (hkey : Table.get? entries key = some v) :
    ∃ new, merged.get? key = some new ∧
      mergeOnto depth (path.child (.key key)) ((fields.get? key).getD .null) v = .ok new := by
  induction entries generalizing fields with
  | nil => cases hkey
  | cons entry rest ih =>
      obtain ⟨k, w⟩ := entry
      obtain ⟨hk, hrest⟩ := noDirective_cons.mp hp
      obtain ⟨hnotin, hn⟩ := List.nodup_cons.mp hn
      obtain ⟨new, hnew, hmerged⟩ := mergeEntries_entry hk h
      rw [Table.get?_cons] at hkey
      by_cases he : k = key
      · rw [if_pos he] at hkey
        cases hkey
        subst he
        have hrest' :=
          mergeEntries_get?_of_none hrest hmerged (Table.get?_eq_none_iff.mpr hnotin)
        exact ⟨new, hrest'.trans (Table.get?_insert_self fields k new), hnew⟩
      · rw [if_neg he] at hkey
        obtain ⟨new', hget, hmerge⟩ := ih hrest hn hmerged hkey
        rw [Table.get?_insert_of_ne fields new (Ne.symm he)] at hmerge
        exact ⟨new', hget, hmerge⟩

/-- An item of an array is merged onto nothing and keeps its position. -/
theorem cleanItems_getElem? {position : Nat} {items vs : List Json}
    (h : cleanItems depth path position items = .ok vs) {i : Nat} {v : Json}
    (hv : items[i]? = some v) :
    ∃ new, vs[i]? = some new ∧
      mergeOnto depth (path.child (.index (position + i))) .null v = .ok new := by
  induction items generalizing position vs i with
  | nil => cases hv
  | cons item rest ih =>
      obtain ⟨first, others, hfirst, hothers, rfl⟩ := cleanItems_cons h
      cases i with
      | zero =>
          cases hv
          exact ⟨first, rfl, hfirst⟩
      | succ i =>
          obtain ⟨new, hget, hmerge⟩ := ih hothers hv
          rw [show position + (i + 1) = position + 1 + i by omega]
          exact ⟨new, hget, hmerge⟩

/-! ## A plain layer onto nothing -/

mutual

/-- A layer without directives, merged onto nothing, is the result. -/
theorem mergeOnto_null_eq : ∀ (layer : Json) {depth : Nat} {path : KeyPath} {r : Json},
    DirectiveFree layer → layer.Distinct → mergeOnto depth path .null layer = .ok r → r = layer
  | layer, _, _, _, hf, hd, h => by
      cases layer with
      | object entries =>
          obtain ⟨merged, hmerged, rfl⟩ := mergeOnto_plainObject hf.noDirective h
          rw [mergeEntries_eq_append entries hf hd (fun _ _ hold => by cases hold) hmerged]
          rfl
      | array items =>
          obtain ⟨vs, hvs, rfl⟩ := mergeOnto_array h
          rw [cleanItems_eq items (directiveFree_array.mp hf) hd hvs]
      | _ => exact mergeOnto_scalar rfl rfl h
termination_by structural layer => layer

/-- Items without directives stay as they are. -/
theorem cleanItems_eq : ∀ (items : List Json) {depth position : Nat} {path : KeyPath}
    {vs : List Json}, (∀ v ∈ items, DirectiveFree v) → Json.DistinctItems items →
    cleanItems depth path position items = .ok vs → vs = items
  | [], _, _, _, _, _, _, h => by
      cases h
      rfl
  | item :: rest, _, _, _, _, hf, hd, h => by
      obtain ⟨first, others, hfirst, hothers, rfl⟩ := cleanItems_cons h
      obtain ⟨hitem, hrest⟩ := List.forall_mem_cons.mp hf
      rw [mergeOnto_null_eq item hitem hd.1 hfirst, cleanItems_eq rest hrest hd.2 hothers]
termination_by structural items => items

/-- Entries without directives whose keys are all new follow the old ones. -/
theorem mergeEntries_eq_append : ∀ (entries : List (String × Json)) {depth : Nat}
    {path : KeyPath} {fields merged : Table Json}, DirectiveFree (.object entries) →
    (Json.object entries).Distinct → (∀ key ∈ Table.keys entries, key ∉ fields.keys) →
    mergeEntries depth path fields entries = .ok merged → merged = fields ++ entries
  | [], _, _, _, _, _, _, _, h => by
      cases h
      exact (List.append_nil _).symm
  | (key, v) :: rest, _, _, fields, _, hf, hd, hnew, h => by
      rw [directiveFree_object] at hf
      obtain ⟨⟨hk, hv⟩, hrest⟩ := List.forall_mem_cons.mp hf
      obtain ⟨hnodup, hdv, hdrest⟩ := hd
      obtain ⟨hnotin, hnodup⟩ := List.nodup_cons.mp hnodup
      obtain ⟨new, hmerge, hmerged⟩ := mergeEntries_entry hk h
      have hkey : key ∉ fields.keys := hnew key List.mem_cons_self
      rw [Table.get?_eq_none_iff.mpr hkey] at hmerge
      rw [mergeOnto_null_eq v hv hdv hmerge, Table.insert_of_not_mem hkey] at hmerged
      have hothers : ∀ other ∈ Table.keys rest, other ∉ Table.keys (fields ++ [(key, v)]) := by
        intro other hother
        have hne : other ≠ key := fun e => hnotin (e ▸ hother)
        have hold := hnew other (List.mem_cons_of_mem _ hother)
        simpa [Table.keys, hne] using hold
      rw [mergeEntries_eq_append rest (directiveFree_object.mpr hrest) ⟨hnodup, hdrest⟩ hothers
        hmerged, List.append_assoc]
      rfl
termination_by structural entries => entries

end

end Merge

end BundleConfig
