import BundleConfig.Layer.Basic
import BundleConfig.Proofs.Table

/-!
# Dropping task blocks

The blocks of all tasks are dropped one after the other.  In a table with distinct keys
that is one pass: the entries that are left are those that are no block.
-/

namespace BundleConfig

namespace Layer

/-- Whether an entry is the block of one of the tasks. -/
def isBlockOf (names : List String) (e : String × Json) : Bool :=
  names.contains e.1 && e.2.isObject

theorem dropTaskBlock_eq_filter {entries : Table Json} (h : entries.keys.Nodup) (name : String) :
    dropTaskBlock entries name = entries.filter fun e => !isBlockOf [name] e := by
  have hblock : ∀ e ∈ entries, e.1 = name → entries.get? name = some e.2 := by
    intro e he heq
    exact (Table.get?_eq_some_iff h).mpr (heq ▸ he)
  unfold dropTaskBlock
  split
  next block hget =>
    rw [Table.erase_eq_filter h]
    apply List.filter_congr
    intro e he
    by_cases heq : e.1 = name
    · have hvalue := hblock e he heq
      rw [hget] at hvalue
      simp [isBlockOf, heq, ← Option.some.inj hvalue, Json.isObject, Json.entries?]
    · simp [isBlockOf, heq]
  next hother =>
    symm
    apply List.filter_eq_self.mpr
    intro e he
    by_cases heq : e.1 = name
    · have hvalue := hblock e he heq
      cases hv : e.2 with
      | object block => exact absurd (hv ▸ hvalue) (hother block)
      | _ => simp [isBlockOf, hv, Json.isObject, Json.entries?]
    · simp [isBlockOf, heq]

/-- What is left are the entries that are no block. -/
theorem foldl_dropTaskBlock {entries : Table Json} (h : entries.keys.Nodup)
    (names : List String) :
    names.foldl dropTaskBlock entries = entries.filter fun e => !isBlockOf names e := by
  induction names generalizing entries with
  | nil => simp [isBlockOf]
  | cons name rest ih =>
      rw [List.foldl_cons, dropTaskBlock_eq_filter h, ih (Table.keys_filter_nodup h _),
        List.filter_filter]
      apply List.filter_congr
      intro e _
      by_cases heq : e.1 = name
      · simp only [isBlockOf, heq, List.contains_cons]
        cases e.2.isObject <;> simp
      · simp [isBlockOf, heq]

theorem dropTaskBlocks_object {entries : Table Json} (h : entries.keys.Nodup) :
    dropTaskBlocks (.object entries) =
      .object (entries.filter fun e => !isBlockOf taskNames e) := by
  rw [dropTaskBlocks, foldl_dropTaskBlock h]

end Layer

end BundleConfig
