import BundleConfig.Json.Reader
import BundleConfig.Proofs.Json.Keys
import BundleConfig.Proofs.Result
import BundleConfig.Proofs.Table

/-!
# Distinct trees

Writing and erasing entries keeps a tree distinct, and every tree that is read from a
text is distinct: a reader collects pairs, and `Table.ofList` makes a table of them.

The readers of trees, items and entries call each other with less fuel, so
`readsDistinct` is one induction on the fuel with a lemma for each.
-/

namespace BundleConfig

namespace Json

/-! ## Arrays and mappings -/

theorem distinct_array {items : List Json} :
    (array items).Distinct ↔ ∀ v ∈ items, v.Distinct := by
  rw [Distinct]
  induction items with
  | nil => simp [DistinctItems]
  | cons v rest ih => rw [DistinctItems, ih, List.forall_mem_cons]

theorem distinctEntries_iff {entries : List (String × Json)} :
    DistinctEntries entries ↔ ∀ e ∈ entries, e.2.Distinct := by
  induction entries with
  | nil => simp [DistinctEntries]
  | cons e rest ih =>
      obtain ⟨key, v⟩ := e
      rw [DistinctEntries, ih, List.forall_mem_cons]

theorem distinct_object {entries : List (String × Json)} :
    (object entries).Distinct ↔
      (Table.keys entries).Nodup ∧ ∀ e ∈ entries, e.2.Distinct := by
  rw [Distinct, distinctEntries_iff]

theorem distinct_scalar {v : Json} (ho : v.isObject = false) (ha : v.isArray = false) :
    v.Distinct := by
  cases v with
  | array items => cases ha
  | object entries => cases ho
  | _ => exact trivial

/-- The value of a key of a distinct tree is distinct. -/
theorem Distinct.get? {v w : Json} (h : v.Distinct) {key : String} (hw : v.get? key = some w) :
    w.Distinct := by
  cases v with
  | object entries => exact h.2.of_get? hw
  | _ => cases hw

theorem Distinct.insert {fields : Table Json} (h : (object fields).Distinct) (key : String)
    {v : Json} (hv : v.Distinct) : (object (fields.insert key v)).Distinct := by
  rw [distinct_object] at h ⊢
  refine ⟨Table.keys_insert_nodup h.1 key v, fun e he => ?_⟩
  rcases Table.mem_of_mem_insert he with he | rfl
  · exact h.2 e he
  · exact hv

theorem Distinct.erase {fields : Table Json} (h : (object fields).Distinct) (key : String) :
    (object (fields.erase key)).Distinct := by
  rw [distinct_object] at h ⊢
  exact ⟨((Table.erase_sublist fields key).map _).nodup h.1,
    fun e he => h.2 e (Table.mem_of_mem_erase he)⟩

/-- A list of pairs with distinct values makes a distinct mapping. -/
theorem distinct_ofList {pairs : List (String × Json)} (h : ∀ e ∈ pairs, e.2.Distinct) :
    (object (Table.ofList pairs)).Distinct := by
  refine List.foldlRecOn (motive := fun fields : Table Json => (object fields).Distinct) pairs _
    (distinct_object.mpr ⟨List.nodup_nil, List.forall_mem_nil _⟩) fun fields hfields e he => ?_
  exact hfields.insert e.1 (h e he)

/-! ## Reading -/

theorem number?_distinct {negative : Bool} {cs rest : List Char} {v : Json}
    (h : number? negative cs = .ok (v, rest)) : v.Distinct := by
  unfold number? at h
  extract_lets finish at h
  have hfinish : ∀ x, finish x = .ok (v, rest) → v.Distinct := by
    intro x hx
    obtain ⟨_, -, hx⟩ := bind_eq_ok.mp hx
    obtain ⟨_, -, hx⟩ := bind_eq_ok.mp hx
    dsimp only at hx
    split at hx
    · cases hx
      exact trivial
    · cases hx
  repeat' split at h
  all_goals
    obtain ⟨x, -, hx⟩ := bind_eq_ok.mp h
    exact hfinish x hx

/-- What is read with the fuel is distinct. -/
structure ReadsDistinct (fuel : Nat) : Prop where
  ofTree : ∀ {depth cs v rest}, tree fuel depth cs = .ok (v, rest) → v.Distinct
  ofItems : ∀ {depth cs items rest}, itemList fuel depth cs = .ok (items, rest) →
    ∀ v ∈ items, v.Distinct
  ofEntries : ∀ {depth cs entries rest}, entryList fuel depth cs = .ok (entries, rest) →
    ∀ e ∈ entries, e.2.Distinct

section

variable {fuel depth : Nat} {cs rest : List Char}

theorem ReadsDistinct.tree_succ (ih : ReadsDistinct fuel) {v : Json}
    (h : tree (fuel + 1) depth cs = .ok (v, rest)) : v.Distinct := by
  unfold tree at h
  split at h
  · cases h
  · obtain ⟨_, -, h⟩ := bind_eq_ok.mp h
    cases h
    exact trivial
  · split at h
    · cases h
    · split at h
      · cases h
        exact distinct_array.mpr (List.forall_mem_nil _)
      · cases h
      · obtain ⟨⟨items, left⟩, hitems, h⟩ := bind_eq_ok.mp h
        cases h
        exact distinct_array.mpr (ih.ofItems hitems)
  · split at h
    · cases h
    · split at h
      · cases h
        exact distinct_object.mpr ⟨List.nodup_nil, List.forall_mem_nil _⟩
      · cases h
      · obtain ⟨⟨pairs, left⟩, hpairs, h⟩ := bind_eq_ok.mp h
        cases h
        exact distinct_ofList (ih.ofEntries hpairs)
  · obtain ⟨_, -, h⟩ := bind_eq_ok.mp h
    cases h
    exact trivial
  · obtain ⟨_, -, h⟩ := bind_eq_ok.mp h
    cases h
    exact trivial
  · obtain ⟨_, -, h⟩ := bind_eq_ok.mp h
    cases h
    exact trivial
  · exact number?_distinct h
  · split at h
    · exact number?_distinct h
    · cases h

theorem ReadsDistinct.items_succ (ih : ReadsDistinct fuel) {items : List Json}
    (h : itemList (fuel + 1) depth cs = .ok (items, rest)) : ∀ v ∈ items, v.Distinct := by
  unfold itemList at h
  obtain ⟨⟨v, left⟩, hv, h⟩ := bind_eq_ok.mp h
  have hdistinct : v.Distinct := ih.ofTree hv
  dsimp only at h
  split at h
  · cases h
    exact List.forall_mem_singleton.mpr hdistinct
  · split at h
    · cases h
    · cases h
    · obtain ⟨⟨others, left⟩, hothers, h⟩ := bind_eq_ok.mp h
      cases h
      exact List.forall_mem_cons.mpr ⟨hdistinct, ih.ofItems hothers⟩
  · cases h
  · cases h

theorem ReadsDistinct.entries_succ (ih : ReadsDistinct fuel) {entries : List (String × Json)}
    (h : entryList (fuel + 1) depth cs = .ok (entries, rest)) : ∀ e ∈ entries, e.2.Distinct := by
  unfold entryList at h
  extract_lets ofKey at h
  have hkey : ∀ x, ofKey x = .ok (entries, rest) → ∀ e ∈ entries, e.2.Distinct := by
    intro x hx
    dsimp -zeta only [ofKey] at hx
    extract_lets ofValue at hx
    have hvalue : ∀ x, ofValue x = .ok (entries, rest) → ∀ e ∈ entries, e.2.Distinct := by
      intro x hx
      obtain ⟨⟨v, left⟩, hv, hx⟩ := bind_eq_ok.mp hx
      have hdistinct : v.Distinct := ih.ofTree hv
      dsimp only at hx
      split at hx
      · cases hx
        exact List.forall_mem_singleton.mpr hdistinct
      · obtain ⟨⟨others, left⟩, hothers, hx⟩ := bind_eq_ok.mp hx
        cases hx
        exact List.forall_mem_cons.mpr ⟨hdistinct, ih.ofEntries hothers⟩
      · cases hx
      · cases hx
    split at hx
    all_goals
      obtain ⟨x, -, hx⟩ := bind_eq_ok.mp hx
      exact hvalue x hx
  split at h
  all_goals
    obtain ⟨x, -, hx⟩ := bind_eq_ok.mp h
    exact hkey x hx

end

theorem readsDistinct (fuel : Nat) : ReadsDistinct fuel := by
  induction fuel with
  | zero => constructor <;> (intro _ _ _ _ h; cases h)
  | succ fuel ih => exact ⟨ih.tree_succ, ih.items_succ, ih.entries_succ⟩

/-- What is read from a text is distinct. -/
theorem read_distinct {source : String} {v : Json} (h : read source = .ok v) : v.Distinct := by
  obtain ⟨⟨w, rest⟩, hw, h⟩ := bind_eq_ok.mp (mapError_eq_ok.mp h)
  dsimp only at h
  split at h
  · cases h
    exact (readsDistinct _).ofTree hw
  · cases h

end Json

end BundleConfig
