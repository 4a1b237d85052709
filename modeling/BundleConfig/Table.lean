/-!
# Tables

A *table* maps names to values and remembers the order in which the names came.
Writing a name that is there replaces its value where it stands.  Writing a new
name puts it at the end.  Erasing a name keeps the order of the others.

Most names are texts.  The entries of a directory have other ones, so a table is
over any type of names that can be compared.

A table is a list of pairs.  Every operation here keeps a list of distinct
names one, and `Table.ofList` makes one from any list of pairs.
-/

namespace BundleConfig

/-- Named values in the order of their first writing. -/
abbrev Table (α : Type) (κ : Type := String) := List (κ × α)

namespace Table

variable {κ α β : Type}

/-- The names, in order. -/
def keys (t : Table α κ) : List κ := t.map (·.1)

/-- The values, in order. -/
def values (t : Table α κ) : List α := t.map (·.2)

/-- The table with a function applied to every value. -/
def mapValues (f : α → β) (t : Table α κ) : Table β κ := t.map fun entry => (entry.1, f entry.2)

@[simp] theorem keys_nil : keys ([] : Table α κ) = [] := rfl

@[simp] theorem keys_cons (k : κ) (v : α) (rest : Table α κ) :
    keys ((k, v) :: rest) = k :: keys rest := rfl

variable [DecidableEq κ]

/-- The value of a name. -/
def get? : Table α κ → (key : κ) → Option α
  | [], _ => none
  | (k, v) :: rest, key => if k = key then some v else get? rest key

/-- Whether the name has a value. -/
def contains (t : Table α κ) (key : κ) : Bool := (t.get? key).isSome

/-- The table with `value` written at `key`, in place or at the end. -/
def insert : Table α κ → (key : κ) → (value : α) → Table α κ
  | [], key, value => [(key, value)]
  | (k, v) :: rest, key, value =>
      if k = key then (k, value) :: rest else (k, v) :: insert rest key value

/-- The table without `key`. -/
def erase : Table α κ → (key : κ) → Table α κ
  | [], _ => []
  | (k, v) :: rest, key => if k = key then rest else (k, v) :: erase rest key

/-- The table with a change made to the value of `key`, which must be there. -/
def modify? (t : Table α κ) (key : κ) (change : α → Option α) : Option (Table α κ) :=
  match t with
  | [] => none
  | (k, v) :: rest =>
      if k = key then (change v).map fun w => (k, w) :: rest
      else (modify? rest key change).map ((k, v) :: ·)

/-- The pairs written one after the other. -/
def insertAll (t : Table α κ) (pairs : List (κ × α)) : Table α κ :=
  pairs.foldl (fun t entry => t.insert entry.1 entry.2) t

/-- The table of a list of pairs.  A repeated name keeps its first place and its
last value. -/
def ofList (pairs : List (κ × α)) : Table α κ := insertAll [] pairs

/-! ## Reading after writing -/

@[simp] theorem get?_nil (key : κ) : get? ([] : Table α κ) key = none := rfl

@[simp] theorem get?_cons (k key : κ) (v : α) (rest : Table α κ) :
    get? ((k, v) :: rest) key = if k = key then some v else get? rest key := rfl

/-- A written name reads as what was written. -/
theorem get?_insert_self (t : Table α κ) (key : κ) (value : α) :
    (t.insert key value).get? key = some value := by
  induction t with
  | nil => simp [insert]
  | cons entry rest ih =>
      obtain ⟨k, v⟩ := entry
      by_cases h : k = key <;> simp [insert, h, ih]

/-- The other names read as before. -/
theorem get?_insert_of_ne (t : Table α κ) {key other : κ} (value : α) (h : other ≠ key) :
    (t.insert key value).get? other = t.get? other := by
  induction t with
  | nil => simp [insert, Ne.symm h]
  | cons entry rest ih =>
      obtain ⟨k, v⟩ := entry
      by_cases hk : k = key
      · have hne : ¬ k = other := fun e => h (by rw [← e, hk])
        simp [insert, hk, Ne.symm h]
      · simp [insert, hk, ih]

/-! ## Names -/

/-- A name has no value exactly when the table does not hold it. -/
theorem get?_eq_none_iff {t : Table α κ} {key : κ} : t.get? key = none ↔ key ∉ t.keys := by
  induction t with
  | nil => simp
  | cons entry rest ih =>
      obtain ⟨k, v⟩ := entry
      by_cases h : k = key
      · simp [h]
      · simp [h, ih, Ne.symm h]

/-- Writing keeps the names, and a new name comes last. -/
theorem keys_insert (t : Table α κ) (key : κ) (value : α) :
    (t.insert key value).keys = if key ∈ t.keys then t.keys else t.keys ++ [key] := by
  induction t with
  | nil => rfl
  | cons entry rest ih =>
      obtain ⟨k, v⟩ := entry
      by_cases h : k = key
      · rw [insert, if_pos h, keys_cons, keys_cons, if_pos (by simp [h])]
      · rw [insert, if_neg h, keys_cons, ih, keys_cons]
        by_cases hk : key ∈ keys rest
        · rw [if_pos hk, if_pos (List.mem_cons_of_mem _ hk)]
        · have hne : key ∉ k :: keys rest := by simp [Ne.symm h, hk]
          rw [if_neg hk, if_neg hne, List.cons_append]

/-- A new name with its value comes last. -/
theorem insert_of_not_mem {t : Table α κ} {key : κ} {value : α} (h : key ∉ t.keys) :
    t.insert key value = t ++ [(key, value)] := by
  induction t with
  | nil => rfl
  | cons entry rest ih =>
      obtain ⟨k, v⟩ := entry
      rw [keys_cons, List.mem_cons, not_or] at h
      rw [insert, if_neg (Ne.symm h.1), ih h.2, List.cons_append]

/-! ## Where pairs come from -/

/-- The value of a name stands in the table under it. -/
theorem mem_of_get? {t : Table α κ} {key : κ} {value : α} (h : t.get? key = some value) :
    (key, value) ∈ t := by
  induction t with
  | nil => cases h
  | cons entry rest ih =>
      obtain ⟨k, v⟩ := entry
      rw [get?_cons] at h
      by_cases hk : k = key
      · rw [if_pos hk] at h
        cases h
        rw [hk]
        exact List.mem_cons_self
      · rw [if_neg hk] at h
        exact List.mem_cons_of_mem _ (ih h)

/-- A pair of a table that was written to is old or the written one. -/
theorem mem_of_mem_insert {t : Table α κ} {key : κ} {value : α} {entry : κ × α}
    (h : entry ∈ t.insert key value) : entry ∈ t ∨ entry = (key, value) := by
  induction t with
  | nil => exact Or.inr (List.mem_singleton.mp h)
  | cons first rest ih =>
      obtain ⟨k, v⟩ := first
      rw [insert] at h
      by_cases hk : k = key
      · rw [if_pos hk, hk] at h
        cases h with
        | head => exact Or.inr rfl
        | tail _ h => exact Or.inl (List.mem_cons_of_mem _ h)
      · rw [if_neg hk] at h
        cases h with
        | head => exact Or.inl List.mem_cons_self
        | tail _ h => exact (ih h).imp_left (List.mem_cons_of_mem _)

/-- Erasing brings in no pair. -/
theorem mem_of_mem_erase {t : Table α κ} {key : κ} {entry : κ × α}
    (h : entry ∈ t.erase key) : entry ∈ t := by
  induction t with
  | nil => cases h
  | cons first rest ih =>
      obtain ⟨k, v⟩ := first
      rw [erase] at h
      by_cases hk : k = key
      · rw [if_pos hk] at h
        exact List.mem_cons_of_mem _ h
      · rw [if_neg hk] at h
        cases h with
        | head => exact List.mem_cons_self
        | tail _ h => exact List.mem_cons_of_mem _ (ih h)

end Table

end BundleConfig
