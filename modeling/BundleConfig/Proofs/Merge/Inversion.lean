import BundleConfig.Merge.Basic
import BundleConfig.Proofs.Result
import BundleConfig.Proofs.Table

/-!
# What a merge did

Each theorem takes apart a merge that succeeded.  A layer's mapping runs its
directives and then, if it has further entries, merges them into the mapping that
is left.  A layer's array is cleaned item by item.  A scalar is the result.

The proofs about merging go through these theorems and open no definition of
merging themselves.
-/

namespace BundleConfig

namespace Merge

variable {depth : Nat} {path : KeyPath} {target r : Json}

/-! ## One node -/

/-- A merge that succeeds does not stand too deep. -/
theorem mergeOnto_depth {layer : Json} (h : mergeOnto depth path target layer = .ok r) :
    depth ≤ maxLevels := by
  apply Nat.le_of_not_lt
  intro hdeep
  cases layer <;>
    (unfold mergeOnto at h; rw [if_pos hdeep] at h; cases h)

/-- A scalar of a layer is the result. -/
theorem mergeOnto_scalar {layer : Json} (ho : layer.isObject = false)
    (ha : layer.isArray = false) (h : mergeOnto depth path target layer = .ok r) : r = layer := by
  cases layer with
  | array items => cases ha
  | object entries => cases ho
  | _ =>
      unfold mergeOnto at h
      split at h
      · cases h
      · exact (Except.ok.inj h).symm

/-- An array of a layer gives its cleaned items. -/
theorem mergeOnto_array {items : List Json}
    (h : mergeOnto depth path target (.array items) = .ok r) :
    ∃ vs, cleanItems (depth + 1) path 0 items = .ok vs ∧ r = .array vs := by
  unfold mergeOnto at h
  split at h
  · cases h
  · split at h
    · cases h
    · obtain ⟨vs, hvs, rfl⟩ := map_eq_ok.mp h
      exact ⟨vs, hvs, rfl⟩

/-- A mapping of a layer runs its directives.  If it holds nothing else the
result is what they leave, or the empty mapping in the place of no mapping when
there are none.  Otherwise the entries are merged into the mapping they leave. -/
theorem mergeOnto_object {entries : List (String × Json)}
    (h : mergeOnto depth path target (.object entries) = .ok r) :
    ∃ t, applyDirectives path target (replacement (depth + 1) path entries)
          (Table.get? entries removeKey) (additions prependKey (depth + 1) path entries)
          (additions appendKey (depth + 1) path entries) = .ok t ∧
      (((entries.all fun e => isDirective e.1) = true ∧
          r = if entries.isEmpty && !t.isObject then Json.emptyObject else t) ∨
        ((entries.all fun e => isDirective e.1) = false ∧
          ∃ fields merged, mappingTarget path t = .ok fields ∧
            mergeEntries (depth + 1) path fields entries = .ok merged ∧ r = .object merged)) := by
  rw [mergeOnto] at h
  split at h
  · cases h
  · obtain ⟨t, ht, h⟩ := bind_eq_ok.mp h
    refine ⟨t, ht, ?_⟩
    split at h
    next hall =>
      exact Or.inl ⟨hall, (Except.ok.inj h).symm⟩
    next hall =>
      obtain ⟨fields, hfields, h⟩ := bind_eq_ok.mp h
      obtain ⟨merged, hmerged, h⟩ := bind_eq_ok.mp h
      exact Or.inr ⟨by simpa using hall, fields, merged, hfields, hmerged,
        (Except.ok.inj h).symm⟩

/-! ## The parts of a node -/

/-- The mapping that takes the entries holds those of a mapping, else none. -/
theorem mappingTarget_eq {fields : Table Json} (h : mappingTarget path target = .ok fields) :
    fields = target.entries?.getD [] := by
  cases target with
  | array items =>
      cases items with
      | nil => exact (Except.ok.inj h).symm
      | cons v rest => cases h
  | _ => exact (Except.ok.inj h).symm

theorem cleanItems_cons {position : Nat} {item : Json} {rest vs : List Json}
    (h : cleanItems depth path position (item :: rest) = .ok vs) :
    ∃ v others, mergeOnto depth (path.child (.index position)) .null item = .ok v ∧
      cleanItems depth path (position + 1) rest = .ok others ∧ vs = v :: others := by
  rw [cleanItems] at h
  obtain ⟨v, hv, h⟩ := bind_eq_ok.mp h
  obtain ⟨others, hothers, h⟩ := bind_eq_ok.mp h
  exact ⟨v, others, hv, hothers, (Except.ok.inj h).symm⟩

theorem cleanAdditions_cons {item : Json} {rest vs : List Json}
    (h : cleanAdditions depth path (item :: rest) = .ok vs) :
    ∃ v others, mergeOnto depth path .null item = .ok v ∧
      cleanAdditions depth path rest = .ok others ∧ vs = v :: others := by
  rw [cleanAdditions] at h
  obtain ⟨v, hv, h⟩ := bind_eq_ok.mp h
  obtain ⟨others, hothers, h⟩ := bind_eq_ok.mp h
  exact ⟨v, others, hv, hothers, (Except.ok.inj h).symm⟩

/-- The first replacing directive counts. -/
theorem replacement_eq (entries : List (String × Json)) :
    replacement depth path entries =
      match Table.get? entries replaceKey with
      | none => .ok none
      | some v => (mergeOnto depth path .null v).map some := by
  induction entries with
  | nil => rfl
  | cons entry rest ih =>
      obtain ⟨key, v⟩ := entry
      rw [replacement, Table.get?_cons]
      by_cases hk : key = replaceKey
      · rw [if_pos hk, if_pos hk]
      · rw [if_neg hk, if_neg hk]
        exact ih

/-- The items that an operand adds. -/
def addedBy (depth : Nat) (path : KeyPath) : Json → Except ConfigError (List Json)
  | .array items => cleanAdditions depth path items
  | single => (mergeOnto depth path .null single).map ([·])

/-- The first adding directive counts. -/
theorem additions_eq (directive : String) (entries : List (String × Json)) :
    additions directive depth path entries =
      (Table.get? entries directive).map (addedBy depth path) := by
  induction entries with
  | nil => rfl
  | cons entry rest ih =>
      obtain ⟨key, v⟩ := entry
      rw [Table.get?_cons]
      unfold additions
      by_cases hk : key = directive
      · rw [if_pos hk, if_pos hk]
        cases v <;> rfl
      · rw [if_neg hk, if_neg hk]
        exact ih

/-- The first entry of an adding directive with an array brings in its items. -/
theorem additions_array {directive key : String} {operands items : List Json}
    {rest : List (String × Json)}
    (h : additions directive depth path ((key, .array operands) :: rest) = some (.ok items)) :
    cleanAdditions depth path operands = .ok items ∨
      additions directive depth path rest = some (.ok items) := by
  unfold additions at h
  split at h
  · exact Or.inl (Option.some.inj h)
  · exact Or.inr h

/-- The first entry of an adding directive with another operand brings it in. -/
theorem additions_single {directive key : String} {operand : Json} {items : List Json}
    {rest : List (String × Json)} (ha : operand.isArray = false)
    (h : additions directive depth path ((key, operand) :: rest) = some (.ok items)) :
    (∃ new, mergeOnto depth path .null operand = .ok new ∧ items = [new]) ∨
      additions directive depth path rest = some (.ok items) := by
  unfold additions at h
  split at h
  · split at h
    · cases ha
    · obtain ⟨new, hnew, rfl⟩ := map_eq_ok.mp (Option.some.inj h)
      exact Or.inl ⟨new, hnew, rfl⟩
  · exact Or.inr h

/-- A directive among the entries is passed over. -/
theorem mergeEntries_directive {fields : Table Json} {key : String} {v : Json}
    {rest : List (String × Json)} (hk : isDirective key = true) :
    mergeEntries depth path fields ((key, v) :: rest) = mergeEntries depth path fields rest := by
  rw [mergeEntries, if_pos hk]

/-- An entry is merged onto the value its key has, or onto `null`. -/
theorem mergeEntries_cons {key : String} (hk : isDirective key = false) (fields : Table Json)
    (v : Json) (rest : List (String × Json)) :
    mergeEntries depth path fields ((key, v) :: rest) =
      (mergeOnto depth (path.child (.key key)) ((fields.get? key).getD .null) v >>= fun new =>
        mergeEntries depth path (fields.insert key new) rest) := by
  rw [mergeEntries, if_neg (by rw [hk]; decide)]

theorem mergeEntries_cons_iff {fields merged : Table Json} {key : String} {v : Json}
    {rest : List (String × Json)} (hk : isDirective key = false) :
    mergeEntries depth path fields ((key, v) :: rest) = .ok merged ↔
      ∃ new, mergeOnto depth (path.child (.key key)) ((fields.get? key).getD .null) v = .ok new ∧
        mergeEntries depth path (fields.insert key new) rest = .ok merged := by
  rw [mergeEntries_cons hk]
  exact bind_eq_ok

theorem mergeEntries_entry {fields merged : Table Json} {key : String} {v : Json}
    {rest : List (String × Json)} (hk : isDirective key = false)
    (h : mergeEntries depth path fields ((key, v) :: rest) = .ok merged) :
    ∃ new, mergeOnto depth (path.child (.key key)) ((fields.get? key).getD .null) v = .ok new ∧
      mergeEntries depth path (fields.insert key new) rest = .ok merged :=
  (mergeEntries_cons_iff hk).mp h

end Merge

end BundleConfig
