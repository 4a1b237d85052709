import BundleConfig.Merge.Comment
import BundleConfig.Proofs.Json.Distinct
import BundleConfig.Proofs.KeyPath.Writing

/-!
# Trees without comments

Taking the comments away leaves every node in its place that is not inside a comment:
an array loses no item, and a mapping loses the entries with the key `#` only.  So a
path without that key leads to the same node, which has lost its own comments.
-/

namespace BundleConfig

namespace Merge

theorem removeItemComments_eq_map (items : List Json) :
    removeItemComments items = items.map removeComments := by
  induction items with
  | nil => rfl
  | cons v rest ih => rw [removeItemComments, ih, List.map_cons]

theorem get?_removeEntryComments {entries : Table Json} {key : String} (h : key ≠ commentKey) :
    Table.get? (removeEntryComments entries) key = (entries.get? key).map removeComments := by
  induction entries with
  | nil => rfl
  | cons entry rest ih =>
      obtain ⟨k, v⟩ := entry
      rw [removeEntryComments, Table.get?_cons]
      by_cases hcomment : k = commentKey
      · rw [if_pos hcomment, if_neg (by rw [hcomment]; exact h.symm), ih]
      · rw [if_neg hcomment, Table.get?_cons, ih]
        split <;> rfl

theorem step?_removeComments {s : Segment} (h : s ≠ .key commentKey) (v : Json) :
    KeyPath.step? (removeComments v) s = (KeyPath.step? v s).map removeComments := by
  cases v with
  | object entries =>
      cases s with
      | key key => exact get?_removeEntryComments fun e => h (by rw [e])
      | index position => rfl
  | array items =>
      cases s with
      | key key => rfl
      | index position =>
          rw [removeComments, removeItemComments_eq_map]
          exact List.getElem?_map
  | _ => cases s <;> rfl

/-- A path outside all comments leads to the same node without its comments. -/
theorem get?_removeComments {p : KeyPath} (h : .key commentKey ∉ p) (v : Json) :
    p.get? (removeComments v) = (p.get? v).map removeComments := by
  induction p generalizing v with
  | nil => rfl
  | cons s rest ih =>
      obtain ⟨hs, hrest⟩ := not_or.mp (List.mem_cons.not.mp h)
      rw [KeyPath.get?_cons, KeyPath.get?_cons, step?_removeComments (Ne.symm hs),
        Option.bind_map, Option.map_bind]
      exact congrArg _ (funext fun w => ih hrest w)

mutual

/-- A tree without the key of comments is as before. -/
theorem removeComments_eq_self : ∀ (v : Json), commentKey ∉ v.allKeys → removeComments v = v
  | v, h => by
      cases v with
      | array items => rw [removeComments, removeItemComments_eq_self items h]
      | object entries => rw [removeComments, removeEntryComments_eq_self entries h]
      | _ => rfl
termination_by structural v => v

theorem removeItemComments_eq_self : ∀ (items : List Json),
    commentKey ∉ Json.allKeysOfItems items → removeItemComments items = items
  | [], _ => rfl
  | v :: rest, h => by
      obtain ⟨hv, hrest⟩ := not_or.mp (List.mem_append.not.mp h)
      rw [removeItemComments, removeComments_eq_self v hv, removeItemComments_eq_self rest hrest]
termination_by structural items => items

theorem removeEntryComments_eq_self : ∀ (entries : List (String × Json)),
    commentKey ∉ Json.allKeysOfEntries entries → removeEntryComments entries = entries
  | [], _ => rfl
  | (key, v) :: rest, h => by
      obtain ⟨hkey, hbelow⟩ := not_or.mp (List.mem_cons.not.mp h)
      obtain ⟨hv, hrest⟩ := not_or.mp (List.mem_append.not.mp hbelow)
      rw [removeEntryComments, if_neg (Ne.symm hkey), removeComments_eq_self v hv,
        removeEntryComments_eq_self rest hrest]
termination_by structural entries => entries

end

mutual

/-- A distinct tree without its comments is distinct. -/
theorem removeComments_distinct : ∀ (v : Json), v.Distinct → (removeComments v).Distinct
  | v, h => by
      cases v with
      | array items =>
          exact Json.distinct_array.mpr
            (removeItemComments_distinct items (Json.distinct_array.mp h))
      | object entries =>
          obtain ⟨hkeys, hvalues⟩ := Json.distinct_object.mp h
          obtain ⟨hsublist, hkept⟩ := removeEntryComments_distinct entries hvalues
          exact Json.distinct_object.mpr ⟨hsublist.nodup hkeys, hkept⟩
      | _ => exact h
termination_by structural v => v

theorem removeItemComments_distinct : ∀ (items : List Json), (∀ v ∈ items, v.Distinct) →
    ∀ v ∈ removeItemComments items, v.Distinct
  | [], _ => List.forall_mem_nil _
  | v :: rest, h => by
      obtain ⟨hv, hrest⟩ := List.forall_mem_cons.mp h
      exact List.forall_mem_cons.mpr
        ⟨removeComments_distinct v hv, removeItemComments_distinct rest hrest⟩
termination_by structural items => items

/-- The keys that are left are some of the old ones, in their order. -/
theorem removeEntryComments_distinct : ∀ (entries : List (String × Json)),
    (∀ e ∈ entries, e.2.Distinct) →
    (Table.keys (removeEntryComments entries)).Sublist (Table.keys entries) ∧
      ∀ e ∈ removeEntryComments entries, e.2.Distinct
  | [], _ => ⟨List.Sublist.refl [], List.forall_mem_nil _⟩
  | (key, v) :: rest, h => by
      obtain ⟨hv, hrest⟩ := List.forall_mem_cons.mp h
      obtain ⟨hsublist, hkept⟩ := removeEntryComments_distinct rest hrest
      rw [removeEntryComments]
      split
      · exact ⟨hsublist.cons key, hkept⟩
      · exact ⟨hsublist.cons_cons key,
          List.forall_mem_cons.mpr ⟨removeComments_distinct v hv, hkept⟩⟩
termination_by structural entries => entries

end

end Merge

end BundleConfig
