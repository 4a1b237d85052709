import BundleConfig.Json.Basic

/-!
# The keys of a tree

A tree is *distinct* when no mapping in it has a key twice.  Every tree that is
read from a text is distinct, and so is every tree that is written through
`Table.insert`.  The entries are a list, so it has to be said.

The other facts open `Json.allKeys`, the keys of a tree in document order, for
arrays and mappings.
-/

namespace BundleConfig

namespace Json

/-! ## Distinct trees -/

mutual

/-- No mapping of the tree has a key twice. -/
def Distinct : Json → Prop
  | array items => DistinctItems items
  | object entries => (Table.keys entries).Nodup ∧ DistinctEntries entries
  | _ => True
termination_by structural v => v

/-- The items are distinct trees. -/
def DistinctItems : List Json → Prop
  | [] => True
  | v :: rest => Distinct v ∧ DistinctItems rest
termination_by structural items => items

/-- The values of the entries are distinct trees. -/
def DistinctEntries : List (String × Json) → Prop
  | [] => True
  | (_, v) :: rest => Distinct v ∧ DistinctEntries rest
termination_by structural entries => entries

end

mutual

/-- Whether a tree is distinct. -/
def decideDistinct : (v : Json) → Decidable v.Distinct
  | array items => decideDistinctItems items
  | object entries => @instDecidableAnd _ _ inferInstance (decideDistinctEntries entries)
  | null | bool _ | number _ | string _ => .isTrue trivial
termination_by structural v => v

/-- Whether items are distinct trees. -/
def decideDistinctItems : (items : List Json) → Decidable (DistinctItems items)
  | [] => .isTrue trivial
  | v :: rest => @instDecidableAnd _ _ (decideDistinct v) (decideDistinctItems rest)
termination_by structural items => items

/-- Whether the values of entries are distinct trees. -/
def decideDistinctEntries : (entries : List (String × Json)) → Decidable (DistinctEntries entries)
  | [] => .isTrue trivial
  | (_, v) :: rest => @instDecidableAnd _ _ (decideDistinct v) (decideDistinctEntries rest)
termination_by structural entries => entries

end

instance (v : Json) : Decidable v.Distinct := decideDistinct v

/-- An item of distinct items is distinct. -/
theorem DistinctItems.of_mem {items : List Json} (h : DistinctItems items) {v : Json}
    (hv : v ∈ items) : v.Distinct := by
  induction items with
  | nil => cases hv
  | cons w rest ih =>
      obtain ⟨hw, hrest⟩ := h
      cases hv with
      | head => exact hw
      | tail _ hv => exact ih hrest hv

/-- The value of a key of distinct entries is distinct. -/
theorem DistinctEntries.of_get? {entries : List (String × Json)} (h : DistinctEntries entries)
    {key : String} {v : Json} (hv : Table.get? entries key = some v) : v.Distinct := by
  induction entries with
  | nil => cases hv
  | cons entry rest ih =>
      obtain ⟨k, w⟩ := entry
      obtain ⟨hw, hrest⟩ := h
      rw [Table.get?_cons] at hv
      by_cases hk : k = key
      · rw [if_pos hk] at hv
        cases hv
        exact hw
      · rw [if_neg hk] at hv
        exact ih hrest hv

/-! ## All keys -/

@[simp] theorem allKeys_array (items : List Json) :
    (array items).allKeys = allKeysOfItems items := rfl

@[simp] theorem allKeys_object (entries : List (String × Json)) :
    (object entries).allKeys = allKeysOfEntries entries := rfl

/-- The keys inside items are the keys of the items. -/
theorem mem_allKeysOfItems {items : List Json} {key : String} :
    key ∈ allKeysOfItems items ↔ ∃ v ∈ items, key ∈ v.allKeys := by
  induction items with
  | nil => simp [allKeysOfItems]
  | cons v rest ih => simp [allKeysOfItems, ih]

/-- The keys of entries are their own and those inside their values. -/
theorem mem_allKeysOfEntries {entries : List (String × Json)} {key : String} :
    key ∈ allKeysOfEntries entries ↔ ∃ e ∈ entries, key = e.1 ∨ key ∈ e.2.allKeys := by
  induction entries with
  | nil => simp [allKeysOfEntries]
  | cons entry rest ih =>
      obtain ⟨k, v⟩ := entry
      simp [allKeysOfEntries, ih, or_assoc]

end Json

end BundleConfig
