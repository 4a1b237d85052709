import BundleConfig.Proofs.Merge.Parts
import BundleConfig.Proofs.Merge.Stripping

/-!
# Where the keys of a result come from

A key of the mapping that layers are merged to is there for one of two reasons.  A layer
*brings* it in: by an entry, or by the value it puts in the place of the target.  Or the target
had it, and the layer *spares* it: it puts nothing in the place of the target and does not remove
the key.

So the last layer that does not spare a key decides on it (`mem_rootKeys_mergeLayers`).  Keys
that are directives are left out, since they are in no result.
-/

namespace BundleConfig

namespace Json

/-- The keys at the root.  What is no mapping has none. -/
def rootKeys (v : Json) : List String := Table.keys (v.entries?.getD [])

theorem rootKeys_of_not_object {v : Json} (h : v.isObject = false) : v.rootKeys = [] := by
  cases v with
  | object entries => cases h
  | _ => rfl

end Json

namespace Merge

variable {depth : Nat} {path : KeyPath} {target r layer : Json} {key : String}
  {entries : Table Json}

/-! ## What a layer does to a key -/

/-- No operand of the removing directive takes a key away. -/
def Keeps (entries : List (String × Json)) (key : String) : Prop :=
  ∀ operand, Table.get? entries removeKey = some operand → .string key ∉ operandItems operand

/-- A layer brings in the key: it has an entry of it, or what it puts in the place of the target
brings it in and is not rid of it again. -/
inductive Brings (key : String) : Json → Prop
  | entry {entries : Table Json} (mem : key ∈ entries.keys) : Brings key (.object entries)
  | replacement {entries : Table Json} {v : Json} (operand : entries.get? replaceKey = some v)
      (brings : Brings key v) (kept : Keeps entries key) : Brings key (.object entries)

/-- A layer leaves the key where the target has it. -/
def Spares (key : String) (layer : Json) : Prop :=
  ∃ entries, layer = .object entries ∧ Table.get? entries replaceKey = none ∧
    Keeps entries key

theorem brings_object_iff : Brings key (.object entries) ↔ key ∈ entries.keys ∨
    ∃ v, entries.get? replaceKey = some v ∧ Brings key v ∧ Keeps entries key := by
  constructor
  · rintro (mem | ⟨operand, brings, kept⟩)
    · exact .inl mem
    · exact .inr ⟨_, operand, brings, kept⟩
  · rintro (mem | ⟨v, operand, brings, kept⟩)
    · exact .entry mem
    · exact .replacement operand brings kept

theorem spares_object_iff : Spares key (.object entries) ↔
    entries.get? replaceKey = none ∧ Keeps entries key := by
  constructor
  · rintro ⟨others, heq, h⟩
    cases heq
    exact h
  · exact fun h => ⟨entries, rfl, h⟩

theorem not_brings_or_spares {P : Prop} (h : layer.isObject = false) :
    ¬ (Brings key layer ∨ Spares key layer ∧ P) := by
  rintro ((_ | _) | ⟨⟨entries, rfl, _⟩, _⟩) <;> cases h

/-! ## Directives -/

/-- What is added to an array leaves no key and takes none. -/
theorem rootKeys_addTo {directive : String} {atStart : Bool}
    {added : Option (Except ConfigError (List Json))}
    (h : addTo directive atStart path target added = .ok r) : r.rootKeys = target.rootKeys := by
  cases added with
  | none =>
      cases h
      rfl
  | some items =>
      have hnot : target.isObject = false := by
        cases target with
        | object entries => cases h
        | _ => rfl
      rw [Json.rootKeys_of_not_object hnot, Json.rootKeys_of_not_object (isObject_addTo hnot h)]

theorem mem_rootKeys_removeFrom_singleton {removal : Json} (h : target.Distinct) :
    key ∈ (removeFrom [removal] target).rootKeys ↔
      key ∈ target.rootKeys ∧ removal ≠ .string key := by
  cases target with
  | object fields =>
      cases removal with
      | string name =>
          rw [Ne, Json.string.injEq, eq_comm]
          exact Table.mem_keys_erase h.1
      | _ => exact (and_iff_left Json.noConfusion).symm
  | _ => exact iff_of_false List.not_mem_nil fun h => List.not_mem_nil h.1

/-- A removal takes the keys it names from a mapping. -/
theorem mem_rootKeys_removeFrom {removals : List Json} (h : target.Distinct) :
    key ∈ (removeFrom removals target).rootKeys ↔
      key ∈ target.rootKeys ∧ .string key ∉ removals := by
  induction removals generalizing target with
  | nil => cases target <;> simp [removeFrom, Json.rootKeys, Json.entries?]
  | cons removal removals ih =>
      have hstep : (removeFrom (removal :: removals) target).rootKeys =
          (removeFrom removals (removeFrom [removal] target)).rootKeys := by
        cases target <;> rfl
      have hremoved : (removeFrom [removal] target).Distinct :=
        removeFrom_stable stable_distinct (Nat.zero_le _) [removal] h
      rw [hstep, ih hremoved, mem_rootKeys_removeFrom_singleton h, and_assoc, List.mem_cons,
        not_or, ne_comm]

/-- What the removal of a layer leaves. -/
theorem mem_rootKeys_removedBy (h : target.Distinct) :
    key ∈ (removedBy (entries.get? removeKey) target).rootKeys ↔
      key ∈ target.rootKeys ∧ Keeps entries key := by
  unfold Keeps
  cases entries.get? removeKey with
  | none => simp [removedBy]
  | some operand =>
      rw [removedBy, mem_rootKeys_removeFrom h]
      simp

/-- After the directives there are the keys of the new target, or of the old one if there is no
new one, but for the removed ones. -/
theorem mem_rootKeys_directed (key : String) (ht : target.Distinct)
    (h : directed depth path target entries = .ok r) :
    ∃ o, replacement (depth + 1) path entries = .ok o ∧
      (key ∈ r.rootKeys ↔ key ∈ (o.getD target).rootKeys ∧ Keeps entries key) := by
  rw [directed_eq] at h
  obtain ⟨o, ho, h⟩ := bind_eq_ok.mp h
  obtain ⟨t, hprepended, happended⟩ := bind_eq_ok.mp h
  refine ⟨o, ho, ?_⟩
  have hbase : (o.getD target).Distinct := by
    cases o with
    | none => exact ht
    | some v => exact replacement_stable stable_distinct entries ho
  rw [rootKeys_addTo happended, rootKeys_addTo hprepended, mem_rootKeys_removedBy hbase]

/-! ## Entries -/

/-- Every entry that is no directive leaves its key. -/
theorem mem_keys_mergeEntries {fields merged : Table Json} (hkey : isDirective key = false)
    (h : mergeEntries depth path fields entries = .ok merged) :
    key ∈ merged.keys ↔ key ∈ fields.keys ∨ key ∈ entries.keys := by
  induction entries generalizing fields with
  | nil =>
      cases h
      exact (or_iff_left List.not_mem_nil).symm
  | cons entry rest ih =>
      obtain ⟨name, v⟩ := entry
      rw [Table.keys_cons, List.mem_cons]
      cases hname : isDirective name with
      | true =>
          have hne : key ≠ name := by
            rintro rfl
            exact Bool.noConfusion (hkey.symm.trans hname)
          rw [mergeEntries_directive hname] at h
          rw [ih h, or_iff_right hne]
      | false =>
          obtain ⟨new, -, h⟩ := mergeEntries_entry hname h
          rw [ih h, Table.mem_keys_insert, or_assoc]

/-- A mapping that has nothing but directives leaves the keys they leave. -/
theorem rootKeys_emptyObject_or {bare : Bool} {v : Json} :
    (if bare && !v.isObject then Json.emptyObject else v).rootKeys = v.rootKeys := by
  split
  next hempty =>
    rw [Json.rootKeys_of_not_object (v := v) (by simp_all)]
    rfl
  next => rfl

/-- The keys of a merged mapping are those that its directives leave and those of its entries. -/
theorem mem_rootKeys_mergeOnto_object (hkey : isDirective key = false)
    (h : mergeOnto depth path target (.object entries) = .ok r) :
    ∃ rest, directed depth path target entries = .ok rest ∧
      (key ∈ r.rootKeys ↔ key ∈ rest.rootKeys ∨ key ∈ entries.keys) := by
  obtain ⟨rest, hrest, ⟨hall, rfl⟩ | ⟨-, fields, merged, hfields, hmerged, rfl⟩⟩ :=
    mergeOnto_object h
  · have hnot : key ∉ entries.keys := by
      intro hmem
      obtain ⟨e, he, rfl⟩ := List.mem_map.mp hmem
      exact Bool.noConfusion (hkey.symm.trans (List.all_eq_true.mp hall e he))
    exact ⟨rest, hrest, by rw [rootKeys_emptyObject_or, or_iff_left hnot]⟩
  · have hfrom : rest.rootKeys = fields.keys := by rw [Json.rootKeys, mappingTarget_eq hfields]
    exact ⟨rest, hrest, hfrom ▸ mem_keys_mergeEntries hkey hmerged⟩

/-! ## Layers -/

/-- A key is in a result if the layer brings it in, or if the target has it and the layer
spares it. -/
theorem mem_rootKeys_mergeOnto (hkey : isDirective key = false) (layer : Json)
    (ht : target.Distinct) (h : mergeOnto depth path target layer = .ok r) :
    key ∈ r.rootKeys ↔ Brings key layer ∨ Spares key layer ∧ key ∈ target.rootKeys := by
  refine Json.Inductive.holds (P := fun layer => ∀ {depth path target r}, target.Distinct →
    mergeOnto depth path target layer = .ok r →
      (key ∈ r.rootKeys ↔ Brings key layer ∨ Spares key layer ∧ key ∈ target.rootKeys))
    ⟨?_, ?_, ?_⟩ layer ht h
  · intro v ho ha depth path target r _ h
    rw [mergeOnto_scalar ho ha h, Json.rootKeys_of_not_object ho]
    exact iff_of_false List.not_mem_nil (not_brings_or_spares ho)
  · intro items _ depth path target r _ h
    obtain ⟨vs, -, rfl⟩ := mergeOnto_array h
    exact iff_of_false List.not_mem_nil (not_brings_or_spares rfl)
  · intro entries ih depth path target r ht h
    obtain ⟨rest, hrest, hr⟩ := mem_rootKeys_mergeOnto_object hkey h
    obtain ⟨o, ho, hkept⟩ := mem_rootKeys_directed key ht hrest
    rw [hr, hkept, brings_object_iff, spares_object_iff]
    rw [replacement_eq] at ho
    cases hv : Table.get? entries replaceKey with
    | none =>
        rw [hv] at ho
        cases ho
        simp [or_comm, and_comm]
    | some v =>
        rw [hv] at ho
        obtain ⟨new, hnew, rfl⟩ := map_eq_ok.mp ho
        have hbrings : key ∈ new.rootKeys ↔ Brings key v := by
          rw [ih _ (Table.mem_of_get? hv) (Json.distinct_scalar rfl rfl) hnew]
          exact or_iff_left fun h => List.not_mem_nil h.2
        rw [Option.getD_some, hbrings]
        simp [or_comm]

/-- One of the layers brings the key in, and those after it spare it. -/
def BroughtIn (key : String) (layers : List Json) : Prop :=
  ∃ before layer after, layers = before ++ layer :: after ∧ Brings key layer ∧
    ∀ later ∈ after, Spares key later

theorem not_broughtIn_nil : ¬ BroughtIn key [] := by
  rintro ⟨before, layer, after, heq, -⟩
  exact List.append_ne_nil_of_right_ne_nil before (List.cons_ne_nil layer after) heq.symm

theorem broughtIn_cons {layers : List Json} : BroughtIn key (layer :: layers) ↔
    BroughtIn key layers ∨ Brings key layer ∧ ∀ later ∈ layers, Spares key later := by
  constructor
  · rintro ⟨before, inner, after, heq, hbrings, hspares⟩
    obtain ⟨rfl, h⟩ | ⟨rest, rfl, hrest⟩ := List.cons_eq_append_iff.mp heq
    · cases h
      exact .inr ⟨hbrings, hspares⟩
    · exact .inl ⟨rest, inner, after, hrest, hbrings, hspares⟩
  · rintro (⟨before, inner, after, rfl, hbrings, hspares⟩ | ⟨hbrings, hspares⟩)
    · exact ⟨layer :: before, inner, after, rfl, hbrings, hspares⟩
    · exact ⟨[], layer, layers, rfl, hbrings, hspares⟩

/-- The last layer that does not spare a key decides on it. -/
theorem mem_rootKeys_mergeLayers (hkey : isDirective key = false) {layers : List Json}
    (ht : target.Distinct) (h : mergeLayers target layers = .ok r) :
    key ∈ r.rootKeys ↔
      BroughtIn key layers ∨ (∀ layer ∈ layers, Spares key layer) ∧ key ∈ target.rootKeys := by
  induction layers generalizing target with
  | nil =>
      cases h
      simp [not_broughtIn_nil]
  | cons layer layers ih =>
      obtain ⟨next, hnext, h⟩ := bind_eq_ok.mp h
      rw [ih (mergeOnto_distinct layer ht hnext) h, mem_rootKeys_mergeOnto hkey layer ht hnext,
        broughtIn_cons, List.forall_mem_cons]
      tauto

end Merge

end BundleConfig
