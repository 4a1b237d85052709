import BundleConfig.Table
import Mathlib.Data.List.Nodup

/-!
# Tables with distinct names

In a table whose names are distinct, reading a name and finding a pair are the
same.  Changing the values and writing a name keep the names distinct.
-/

namespace BundleConfig

namespace Table

variable {κ α β : Type}

@[simp] theorem keys_mapValues (f : α → β) (t : Table α κ) : (t.mapValues f).keys = t.keys := by
  rw [keys, mapValues, List.map_map]
  rfl

theorem mem_mapValues {f : α → β} {t : Table α κ} {key : κ} {value : β} :
    (key, value) ∈ t.mapValues f ↔ ∃ v, (key, v) ∈ t ∧ f v = value := by
  simp [mapValues]

theorem keys_filter_nodup {t : Table α κ} (h : t.keys.Nodup) (keep : κ × α → Bool) :
    Table.keys (t.filter keep) |>.Nodup :=
  (List.filter_sublist.map _).nodup h

variable [DecidableEq κ]

/-- In a table with distinct names a name has the value that stands under it. -/
theorem get?_eq_some_iff {t : Table α κ} (h : t.keys.Nodup) {key : κ} {value : α} :
    t.get? key = some value ↔ (key, value) ∈ t := by
  refine ⟨mem_of_get?, fun hmem => ?_⟩
  induction t with
  | nil => cases hmem
  | cons entry rest ih =>
      obtain ⟨k, v⟩ := entry
      rw [keys_cons] at h
      obtain ⟨hnot, hrest⟩ := List.nodup_cons.mp h
      rw [get?_cons]
      obtain heq | hmem := List.mem_cons.mp hmem
      · cases heq
        exact if_pos rfl
      · have hne : k ≠ key := by
          rintro rfl
          exact hnot (List.mem_map_of_mem hmem)
        rw [if_neg hne]
        exact ih hrest hmem

/-- The order of distinct names does not matter for reading. -/
theorem get?_perm {t u : Table α κ} (h : t.Perm u) (hu : u.keys.Nodup) (key : κ) :
    t.get? key = u.get? key := by
  have ht : t.keys.Nodup := (h.map Prod.fst).nodup_iff.mpr hu
  apply Option.ext
  intro v
  rw [get?_eq_some_iff ht, get?_eq_some_iff hu, h.mem_iff]

theorem contains_iff {t : Table α κ} {key : κ} : t.contains key = true ↔ key ∈ t.keys := by
  rw [contains, Option.isSome_iff_ne_none, Ne, get?_eq_none_iff, not_not]

theorem mem_keys_insert {t : Table α κ} {key other : κ} {value : α} :
    other ∈ (t.insert key value).keys ↔ other ∈ t.keys ∨ other = key := by
  rw [keys_insert]
  split
  next hmem => exact ⟨.inl, fun h => h.elim id fun heq => heq ▸ hmem⟩
  next => rw [List.mem_append, List.mem_singleton]

theorem keys_insert_nodup {t : Table α κ} (h : t.keys.Nodup) (key : κ) (value : α) :
    (t.insert key value).keys.Nodup := by
  rw [keys_insert]
  split
  next => exact h
  next hnot =>
    exact List.nodup_append.mpr ⟨h, List.nodup_singleton key, fun a ha b hb heq =>
      hnot (List.mem_singleton.mp hb ▸ heq ▸ ha)⟩

/-- In a table with distinct names a filter keeps a name if it keeps its pair. -/
theorem contains_filter {t : Table α κ} (h : t.keys.Nodup) (keep : κ × α → Bool)
    {entry : κ × α} (hmem : entry ∈ t) :
    Table.contains (t.filter keep) entry.1 = keep entry := by
  rw [Bool.eq_iff_iff, contains_iff]
  constructor
  · intro hname
    obtain ⟨other, hother, heq⟩ := List.mem_map.mp hname
    obtain ⟨hother, hkeep⟩ := List.mem_filter.mp hother
    rwa [List.inj_on_of_nodup_map h hother hmem heq] at hkeep
  · intro hkeep
    exact List.mem_map_of_mem (List.mem_filter.mpr ⟨hmem, hkeep⟩)

theorem erase_sublist (t : Table α κ) (key : κ) : (t.erase key).Sublist t := by
  induction t with
  | nil => exact List.Sublist.refl []
  | cons entry rest ih =>
      obtain ⟨k, v⟩ := entry
      rw [erase]
      split
      · exact List.sublist_cons_self _ rest
      · exact ih.cons_cons _

/-- There is nothing to erase at a name that the table does not hold. -/
theorem erase_of_not_mem {t : Table α κ} {key : κ} (h : key ∉ t.keys) : t.erase key = t := by
  induction t with
  | nil => rfl
  | cons entry rest ih =>
      obtain ⟨k, v⟩ := entry
      obtain ⟨hne, hrest⟩ := not_or.mp (List.mem_cons.not.mp h)
      rw [erase, if_neg (Ne.symm hne), ih hrest]

theorem get?_erase_self {t : Table α κ} (h : t.keys.Nodup) (key : κ) :
    (t.erase key).get? key = none := by
  induction t with
  | nil => rfl
  | cons entry rest ih =>
      obtain ⟨k, v⟩ := entry
      obtain ⟨hnotin, hrest⟩ := List.nodup_cons.mp h
      rw [erase]
      split
      next hk => exact get?_eq_none_iff.mpr (hk ▸ hnotin)
      next hk => rw [get?_cons, if_neg hk, ih hrest]

theorem get?_erase_of_ne (t : Table α κ) {key other : κ} (h : other ≠ key) :
    (t.erase key).get? other = t.get? other := by
  induction t with
  | nil => rfl
  | cons entry rest ih =>
      obtain ⟨k, v⟩ := entry
      rw [erase]
      split
      next hk => rw [get?_cons, if_neg fun heq => h (heq.symm.trans hk)]
      next hk => rw [get?_cons, get?_cons, ih]

/-- Erasing a name leaves the pairs with other names. -/
theorem erase_eq_filter {t : Table α κ} (h : t.keys.Nodup) (key : κ) :
    t.erase key = t.filter fun e => e.1 != key := by
  induction t with
  | nil => rfl
  | cons entry rest ih =>
      obtain ⟨k, v⟩ := entry
      obtain ⟨hnotin, hrest⟩ := List.nodup_cons.mp h
      rw [erase]
      by_cases hk : k = key
      · have hothers : ∀ e ∈ rest, (e.1 != key) = true := by
          intro e he
          have hmem : e.1 ∈ keys rest := List.mem_map_of_mem he
          rw [bne_iff_ne, ← hk]
          intro heq
          exact hnotin (heq ▸ hmem)
        rw [if_pos hk, List.filter_cons_of_neg (by simp [hk]), List.filter_eq_self.mpr hothers]
      · rw [if_neg hk, List.filter_cons_of_pos (by simpa using hk), ih hrest]

theorem mem_keys_erase {t : Table α κ} (h : t.keys.Nodup) {key other : κ} :
    other ∈ (t.erase key).keys ↔ other ∈ t.keys ∧ other ≠ key := by
  rw [erase_eq_filter h]
  simp only [keys, List.mem_map, List.mem_filter, bne_iff_ne]
  constructor
  · rintro ⟨e, ⟨he, hne⟩, rfl⟩
    exact ⟨⟨e, he, rfl⟩, hne⟩
  · rintro ⟨⟨e, he, rfl⟩, hne⟩
    exact ⟨e, ⟨he, hne⟩, rfl⟩

/-- A filter that keeps the pair of a name keeps its value. -/
theorem get?_filter {t : Table α κ} {key : κ} {keep : κ × α → Bool}
    (hkey : ∀ v, t.get? key = some v → keep (key, v) = true) :
    get? (t.filter keep) key = t.get? key := by
  induction t with
  | nil => rfl
  | cons entry rest ih =>
      obtain ⟨k, v⟩ := entry
      rw [List.filter_cons]
      by_cases hk : k = key
      · subst hk
        rw [if_pos (hkey v (if_pos rfl)), get?_cons, get?_cons, if_pos rfl, if_pos rfl]
      · rw [get?_cons, if_neg hk] at hkey ⊢
        split
        · rw [get?_cons, if_neg hk]
          exact ih hkey
        · exact ih hkey

/-- A pair that is kept can be written before and after a filter. -/
theorem filter_insert {t : Table α κ} {key : κ} {keep : κ × α → Bool} {w : α}
    (hkey : ∀ v, t.get? key = some v → keep (key, v) = true) (hw : keep (key, w) = true) :
    (t.insert key w).filter keep = insert (t.filter keep) key w := by
  induction t with
  | nil => simp [insert, hw]
  | cons entry rest ih =>
      obtain ⟨k, v⟩ := entry
      rw [insert]
      by_cases hk : k = key
      · subst hk
        have hv : keep (k, v) = true := hkey v (if_pos rfl)
        simp [insert, hv, hw]
      · rw [get?_cons, if_neg hk] at hkey
        rw [if_neg hk, List.filter_cons, List.filter_cons, ih hkey]
        split
        · rw [insert, if_neg hk]
        · rfl

/-- A change to a value that is there writes what it gives. -/
theorem modify?_of_get? {t : Table α κ} {key : κ} {change : α → Option α} {v w : α}
    (h : t.get? key = some v) (hw : change v = some w) :
    t.modify? key change = some (t.insert key w) := by
  induction t with
  | nil => cases h
  | cons entry rest ih =>
      obtain ⟨k, u⟩ := entry
      rw [get?_cons] at h
      rw [modify?, insert]
      split at h
      next hk =>
        cases h
        rw [if_pos hk, if_pos hk, hw, hk]
        rfl
      next hk =>
        rw [if_neg hk, if_neg hk, ih h]
        rfl

/-! ## Writing twice -/

/-- The last value written under a name stays. -/
theorem insert_insert_self (t : Table α κ) (key : κ) (v w : α) :
    (t.insert key v).insert key w = t.insert key w := by
  induction t with
  | nil => simp [insert]
  | cons entry rest ih =>
      obtain ⟨k, u⟩ := entry
      by_cases hk : k = key <;> simp [insert, hk, ih]

/-- Writing a value where it stands changes nothing. -/
theorem insert_of_get? {t : Table α κ} {key : κ} {v : α} (h : t.get? key = some v) :
    t.insert key v = t := by
  induction t with
  | nil => cases h
  | cons entry rest ih =>
      obtain ⟨k, u⟩ := entry
      rw [get?_cons] at h
      rw [insert]
      split at h
      next hk =>
        cases h
        rw [if_pos hk, hk]
      next hk => rw [if_neg hk, ih h]

/-- Writing a name that is there and writing another one can be swapped. -/
theorem insert_comm {t : Table α κ} {key other : κ} (hkey : key ∈ t.keys) (hne : other ≠ key)
    (v w : α) : (t.insert key v).insert other w = (t.insert other w).insert key v := by
  induction t with
  | nil => cases hkey
  | cons entry rest ih =>
      obtain ⟨k, u⟩ := entry
      by_cases hk : k = key
      · have hother : ¬ key = other := Ne.symm hne
        simp [insert, hk, hother]
      · have hrest : key ∈ keys rest := (List.mem_cons.mp hkey).resolve_left (Ne.symm hk)
        by_cases hkother : k = other <;> simp [insert, hk, hkother, hne, ih hrest]

end Table

end BundleConfig
