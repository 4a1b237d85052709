import BundleConfig.Proofs.Json.Distinct
import BundleConfig.Proofs.Merge.Inversion

/-!
# What no layer breaks

A merge builds its result from few operations.  It takes values of the target, takes
items and entries away, puts items into an array, and writes entries whose keys are no
directives.  A property of trees is *stable* when these operations keep it.  It may
depend on the level the tree stands at, since a merge only goes down to `maxLevels`.

`mergeOnto_stable` says that a merge onto a tree with a stable property gives one,
whatever the layer holds and wherever it holds it.  A value comes into a result on five
ways: as an entry, as an item of an array, and as the operand of `__replace__`,
`__prepend__` or `__append__`.  On each of them it is merged, an operand and an item onto
nothing.  So the proof is one induction on the layer with a theorem for each way.
-/

namespace BundleConfig

namespace Merge

/-- A property of trees at a level that the operations of a merge keep. -/
structure Stable (P : Nat → Json → Prop) : Prop where
  /-- Scalars have the property. -/
  scalar : ∀ {depth : Nat} {v : Json}, depth ≤ maxLevels → v.isObject = false →
    v.isArray = false → P depth v
  /-- An array has it exactly when its items have, one level below. -/
  array_iff : ∀ {depth : Nat} {items : List Json}, depth ≤ maxLevels →
    (P depth (.array items) ↔ ∀ v ∈ items, P (depth + 1) v)
  /-- The mapping without entries has it. -/
  empty : ∀ {depth : Nat}, depth ≤ maxLevels → P depth Json.emptyObject
  /-- The values of a mapping have it. -/
  of_get? : ∀ {depth : Nat} {fields : Table Json} {key : String} {v : Json},
    P depth (.object fields) → fields.get? key = some v → P (depth + 1) v
  /-- Writing a value with the property keeps it. -/
  insert : ∀ {depth : Nat} {fields : Table Json} {key : String} {v : Json},
    P depth (.object fields) → isDirective key = false → P (depth + 1) v →
    P depth (.object (fields.insert key v))
  /-- Erasing an entry keeps it. -/
  erase : ∀ {depth : Nat} {fields : Table Json} (key : String), P depth (.object fields) →
    P depth (.object (fields.erase key))
  /-- A tree that has it keeps it one level above. -/
  raise : ∀ {depth : Nat} {v : Json}, P (depth + 1) v → P depth v

variable {P : Nat → Json → Prop} {depth : Nat}

theorem Stable.null (hP : Stable P) (hdepth : depth ≤ maxLevels) : P depth .null :=
  hP.scalar hdepth rfl rfl

/-- The value of a key, or nothing, has the property. -/
theorem Stable.getD (hP : Stable P) {fields : Table Json} (h : P depth (.object fields))
    (key : String) (hdepth : depth + 1 ≤ maxLevels) :
    P (depth + 1) ((fields.get? key).getD .null) := by
  cases hv : fields.get? key with
  | none => exact hP.null hdepth
  | some v => exact hP.of_get? h hv

/-! ## The parts of a node -/

/-- A removal brings in nothing. -/
theorem removeFrom_stable (hP : Stable P) (hdepth : depth ≤ maxLevels) (removals : List Json)
    {target : Json} (h : P depth target) : P depth (removeFrom removals target) := by
  cases target with
  | array items =>
      rw [removeFrom, hP.array_iff hdepth]
      intro v hv
      exact (hP.array_iff hdepth).mp h v (List.mem_filter.mp hv |>.1)
  | object entries =>
      rw [removeFrom]
      induction removals generalizing entries with
      | nil => exact h
      | cons removal rest ih =>
          rw [List.foldl_cons]
          apply ih
          cases removal with
          | string key => exact hP.erase key h
          | _ => exact h
  | _ => exact h

/-- An addition brings in its items. -/
theorem addTo_stable (hP : Stable P) (hdepth : depth ≤ maxLevels) {directive : String}
    {atStart : Bool} {path : KeyPath} {target r : Json}
    {added : Option (Except ConfigError (List Json))} (ht : P depth target)
    (hi : ∀ items, added = some (.ok items) → ∀ v ∈ items, P (depth + 1) v)
    (h : addTo directive atStart path target added = .ok r) : P depth r := by
  cases added with
  | none =>
      cases h
      exact ht
  | some result =>
      cases target with
      | null =>
          obtain ⟨items, rfl, rfl⟩ := map_eq_ok.mp h
          exact (hP.array_iff hdepth).mpr (hi items rfl)
      | array old =>
          obtain ⟨items, rfl, rfl⟩ := map_eq_ok.mp h
          rw [hP.array_iff hdepth] at ht ⊢
          intro v hv
          have hmem : v ∈ items ∨ v ∈ old := by
            cases atStart with
            | true => exact List.mem_append.mp hv
            | false => exact (List.mem_append.mp hv).symm
          exact hmem.elim (hi items rfl v) (ht v)
      | _ => cases h

/-- What the directives leave has the property if what they bring in has. -/
theorem applyDirectives_stable (hP : Stable P) (hdepth : depth ≤ maxLevels) {path : KeyPath}
    {target r : Json} {replaced : Except ConfigError (Option Json)} {removals : Option Json}
    {prepended appended : Option (Except ConfigError (List Json))} (ht : P depth target)
    (hreplaced : ∀ v, replaced = .ok (some v) → P depth v)
    (hprepended : ∀ items, prepended = some (.ok items) → ∀ v ∈ items, P (depth + 1) v)
    (happended : ∀ items, appended = some (.ok items) → ∀ v ∈ items, P (depth + 1) v)
    (h : applyDirectives path target replaced removals prepended appended = .ok r) :
    P depth r := by
  obtain ⟨v?, hv?, h⟩ := bind_eq_ok.mp h
  obtain ⟨t, hadded, h⟩ := bind_eq_ok.mp h
  refine addTo_stable hP hdepth (addTo_stable hP hdepth ?_ hprepended hadded) happended h
  have hbase : P depth (v?.getD target) := by
    cases v? with
    | none => exact ht
    | some v => exact hreplaced v hv?
  cases removals with
  | none => exact hbase
  | some operand => exact removeFrom_stable hP hdepth (operandItems operand) hbase

theorem mappingTarget_stable (hP : Stable P) (hdepth : depth ≤ maxLevels) {path : KeyPath}
    {target : Json} {fields : Table Json} (ht : P depth target)
    (h : mappingTarget path target = .ok fields) : P depth (.object fields) := by
  rw [mappingTarget_eq h]
  cases target with
  | object entries => exact ht
  | _ => exact hP.empty hdepth

/-! ## A whole layer -/

mutual

/-- No layer breaks a stable property. -/
theorem mergeOnto_stable (hP : Stable P) : ∀ (layer : Json) {depth : Nat} {path : KeyPath}
    {target r : Json}, (depth ≤ maxLevels → P depth target) →
    mergeOnto depth path target layer = .ok r → P depth r
  | layer, _, _, _, _, ht, h => by
      have hdepth := mergeOnto_depth h
      have ht := ht hdepth
      cases layer with
      | object entries =>
          obtain ⟨t, hdirectives, h⟩ := mergeOnto_object h
          have hkept : P _ t :=
            applyDirectives_stable hP hdepth ht
              (fun _ hv => hP.raise (replacement_stable hP entries hv))
              (fun _ => additions_stable hP entries) (fun _ => additions_stable hP entries)
              hdirectives
          rcases h with ⟨-, rfl⟩ | ⟨-, fields, merged, hfields, hmerged, rfl⟩
          · split
            · exact hP.empty hdepth
            · exact hkept
          · exact mergeEntries_stable hP entries (mappingTarget_stable hP hdepth hkept hfields)
              hmerged
      | array items =>
          obtain ⟨vs, hvs, rfl⟩ := mergeOnto_array h
          exact (hP.array_iff hdepth).mpr (cleanItems_stable hP items hvs)
      | _ =>
          rw [mergeOnto_scalar rfl rfl h]
          exact hP.scalar hdepth rfl rfl
termination_by structural layer => layer

/-- The cleaned items of an array have the property. -/
theorem cleanItems_stable (hP : Stable P) : ∀ (items : List Json) {depth position : Nat}
    {path : KeyPath} {vs : List Json}, cleanItems depth path position items = .ok vs →
    ∀ v ∈ vs, P depth v
  | [], _, _, _, _, h => by
      cases h
      intro v hv
      cases hv
  | item :: rest, _, _, _, _, h => by
      obtain ⟨first, others, hfirst, hothers, rfl⟩ := cleanItems_cons h
      intro v hv
      cases hv with
      | head => exact mergeOnto_stable hP item hP.null hfirst
      | tail _ hv => exact cleanItems_stable hP rest hothers v hv
termination_by structural items => items

/-- The cleaned items of an operand have the property. -/
theorem cleanAdditions_stable (hP : Stable P) : ∀ (items : List Json) {depth : Nat}
    {path : KeyPath} {vs : List Json}, cleanAdditions depth path items = .ok vs →
    ∀ v ∈ vs, P depth v
  | [], _, _, _, h => by
      cases h
      intro v hv
      cases hv
  | item :: rest, _, _, _, h => by
      obtain ⟨first, others, hfirst, hothers, rfl⟩ := cleanAdditions_cons h
      intro v hv
      cases hv with
      | head => exact mergeOnto_stable hP item hP.null hfirst
      | tail _ hv => exact cleanAdditions_stable hP rest hothers v hv
termination_by structural items => items

/-- The value that replaces the target has the property. -/
theorem replacement_stable (hP : Stable P) : ∀ (entries : List (String × Json)) {depth : Nat}
    {path : KeyPath} {v : Json}, replacement depth path entries = .ok (some v) → P depth v
  | [], _, _, _, h => by cases h
  | (key, w) :: rest, _, _, _, h => by
      rw [replacement] at h
      split at h
      · obtain ⟨v', hv', heq⟩ := map_eq_ok.mp h
        cases heq
        exact mergeOnto_stable hP w hP.null hv'
      · exact replacement_stable hP rest h
termination_by structural entries => entries

/-- The items that an adding directive brings in have the property. -/
theorem additions_stable (hP : Stable P) : ∀ (entries : List (String × Json))
    {directive : String} {depth : Nat} {path : KeyPath} {items : List Json},
    additions directive depth path entries = some (.ok items) → ∀ v ∈ items, P depth v
  | [], _, _, _, _, h => by cases h
  | (key, operand) :: rest, _, _, _, _, h => by
      cases operand with
      | array operands =>
          rcases additions_array h with h | h
          · exact cleanAdditions_stable hP operands h
          · exact additions_stable hP rest h
      | _ =>
          rcases additions_single rfl h with ⟨new, hnew, rfl⟩ | h
          · exact List.forall_mem_singleton.mpr (mergeOnto_stable hP _ hP.null hnew)
          · exact additions_stable hP rest h
termination_by structural entries => entries

/-- The entries of a layer leave the property to fields that have it. -/
theorem mergeEntries_stable (hP : Stable P) : ∀ (entries : List (String × Json)) {depth : Nat}
    {path : KeyPath} {fields merged : Table Json}, P depth (.object fields) →
    mergeEntries (depth + 1) path fields entries = .ok merged → P depth (.object merged)
  | [], _, _, _, _, hf, h => by
      cases h
      exact hf
  | (key, v) :: rest, _, _, _, _, hf, h => by
      cases hk : isDirective key with
      | true =>
          rw [mergeEntries_directive hk] at h
          exact mergeEntries_stable hP rest hf h
      | false =>
          obtain ⟨new, hnew, h⟩ := mergeEntries_entry hk h
          have hkept : P _ new := mergeOnto_stable hP v (hP.getD hf key) hnew
          exact mergeEntries_stable hP rest (hP.insert hf hk hkept) h
termination_by structural entries => entries

end

/-! ## Distinct trees -/

/-- A distinct tree keeps being one. -/
theorem stable_distinct : Stable fun _ => Json.Distinct where
  scalar := fun _ => Json.distinct_scalar
  array_iff := fun _ => Json.distinct_array
  empty := fun _ => Json.distinct_object.mpr ⟨List.nodup_nil, List.forall_mem_nil _⟩
  of_get? := fun h hv => h.2.of_get? hv
  insert := fun h _ hv => h.insert _ hv
  erase := fun key h => h.erase key
  raise := id

/-- No layer makes a distinct tree one that is not. -/
theorem mergeOnto_distinct (layer : Json) {path : KeyPath} {target r : Json}
    (ht : target.Distinct) (h : mergeOnto depth path target layer = .ok r) : r.Distinct :=
  mergeOnto_stable stable_distinct layer (fun _ => ht) h

end Merge

end BundleConfig
