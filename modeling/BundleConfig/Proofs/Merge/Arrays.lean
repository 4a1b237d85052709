import BundleConfig.Proofs.Merge.Stripping

/-!
# Directives on arrays

A mapping of directives only that is merged onto an array has one meaning, in whatever order
the directives stand.  The replacement takes the place of the array, then items are removed
from it, and last items are put before and after it.  So no item that is put there is removed
by the same mapping, and what a removal lists is removed wherever it occurs.

An operand that is no array lists itself, and one that is missing lists nothing.  The items
that operands bring in are *settled*: merged onto nothing they stay as they are
(`Settled.again`).  The items of the array and those that a removal lists are not merged at
all, so nothing is asked of them.
-/

namespace BundleConfig

namespace Merge

variable {depth : Nat} {path : KeyPath} {target v : Json} {items : List Json}
  {entries others : Table Json} {directive : String}

/-! ## Operands -/

/-- The values that the operand of a directive lists. -/
def listed (entries : Table Json) (directive : String) : List Json :=
  ((entries.get? directive).map operandItems).getD []

/-- The items that the directives start from: those of the replacement or of the target, of
which `null` has none. -/
def startingItems (target : Json) (entries : Table Json) : List Json :=
  ((entries.get? replaceKey).getD target).items?.getD []

/-- A mapping of directives only.  Its replacement is an array, and what it brings in has no
directive and ends above the deepest level. -/
structure ArrayDirectives (depth : Nat) (entries : Table Json) : Prop where
  /-- There is a directive. -/
  nonempty : entries ≠ []
  /-- There is nothing else. -/
  directives : ∀ e ∈ entries, isDirective e.1 = true
  /-- No directive is there twice. -/
  distinct : entries.keys.Nodup
  /-- The replacement is an array. -/
  replacement : ∀ v, entries.get? replaceKey = some v → v.isArray = true ∧ Settled (depth + 1) v
  /-- The added items are settled. -/
  added : ∀ directive, directive = prependKey ∨ directive = appendKey →
    ∀ item ∈ listed entries directive, Settled (depth + 1) item

theorem exists_items (h : v.isArray = true) : ∃ items, v = .array items := by
  cases v with
  | array items => exact ⟨items, rfl⟩
  | _ => cases h

theorem listed_of_get? (h : entries.get? directive = some v) :
    listed entries directive = operandItems v := by
  rw [listed, h, Option.map_some, Option.getD_some]

theorem listed_of_none (h : entries.get? directive = none) : listed entries directive = [] := by
  rw [listed, h, Option.map_none, Option.getD_none]

/-! ## Each directive -/

theorem cleanAdditions_settled (h : ∀ item ∈ items, Settled depth item) :
    cleanAdditions depth path items = .ok items := by
  induction items with
  | nil => rfl
  | cons item rest ih =>
      obtain ⟨hitem, hrest⟩ := List.forall_mem_cons.mp h
      rw [cleanAdditions, hitem.again path, ih hrest]
      rfl

/-- An operand of settled items adds what it lists. -/
theorem addedBy_settled (h : ∀ item ∈ operandItems v, Settled depth item) :
    addedBy depth path v = .ok (operandItems v) := by
  cases v with
  | array items => exact cleanAdditions_settled h
  | _ =>
      rw [addedBy, (List.forall_mem_singleton.mp h).again path]
      · rfl
      · exact nofun

/-- The directive at the start or the end of an array adds what it lists. -/
theorem addTo_array (atStart : Bool)
    (h : ∀ item ∈ listed entries directive, Settled depth item) :
    addTo directive atStart path (.array items) (additions directive depth path entries) =
      .ok (.array (if atStart then listed entries directive ++ items
        else items ++ listed entries directive)) := by
  rw [additions_eq]
  cases hv : entries.get? directive with
  | none =>
      rw [listed_of_none hv]
      cases atStart <;> simp [addTo]
  | some v =>
      rw [listed_of_get? hv] at h ⊢
      rw [Option.map_some, addedBy_settled h]
      rfl

/-- What is added where nothing stands is an array, and without the directive nothing stays. -/
theorem addTo_null (atStart : Bool)
    (h : ∀ item ∈ listed entries directive, Settled depth item) :
    addTo directive atStart path .null (additions directive depth path entries) =
      .ok (if directive ∈ entries.keys then .array (listed entries directive) else .null) := by
  rw [additions_eq]
  cases hv : entries.get? directive with
  | none =>
      rw [if_neg (Table.get?_eq_none_iff.mp hv)]
      rfl
  | some v =>
      have hmem : directive ∈ entries.keys := List.mem_map_of_mem (Table.mem_of_get? hv)
      rw [listed_of_get? hv] at h ⊢
      rw [if_pos hmem, Option.map_some, addedBy_settled h]
      rfl

/-- A removal takes every item that equals one it lists, and no other. -/
theorem removedBy_array : removedBy (entries.get? removeKey) (.array items) =
    .array (items.filter fun item => !(listed entries removeKey).any (Json.equal item)) := by
  cases hv : entries.get? removeKey with
  | none =>
      rw [listed_of_none hv]
      simp [removedBy]
  | some v =>
      rw [listed_of_get? hv]
      rfl

theorem removedBy_null : removedBy (entries.get? removeKey) .null = .null := by
  cases entries.get? removeKey <;> rfl

/-! ## All directives -/

/-- Starting from an array or, if something is added, from nothing, the directives leave what is
put before, what is not removed and what is put after. -/
theorem ArrayDirectives.directed (h : ArrayDirectives depth entries)
    (hstart : ((entries.get? replaceKey).getD target).isArray = true ∨
      (entries.get? replaceKey).getD target = .null ∧
        (prependKey ∈ entries.keys ∨ appendKey ∈ entries.keys)) :
    Merge.directed depth path target entries = .ok (.array (listed entries prependKey ++
      (startingItems target entries).filter
        (fun item => !(listed entries removeKey).any (Json.equal item)) ++
      listed entries appendKey)) := by
  have hreplaced : Merge.replacement (depth + 1) path entries = .ok (entries.get? replaceKey) := by
    rw [replacement_eq]
    cases hv : entries.get? replaceKey with
    | none => rfl
    | some v =>
        dsimp only
        rw [(h.replacement v hv).2.again path]
        rfl
  have hprepended := h.added prependKey (.inl rfl)
  have happended := h.added appendKey (.inr rfl)
  rw [directed_eq, startingItems]
  rcases hstart with harray | ⟨hnull, hadds⟩
  · obtain ⟨items, hitems⟩ := exists_items harray
    refine bind_eq_ok.mpr ⟨_, hreplaced, bind_eq_ok.mpr ⟨_, ?_, addTo_array false happended⟩⟩
    rw [hitems, removedBy_array]
    exact addTo_array true hprepended
  · have hfirst : addTo prependKey true path
        (removedBy (entries.get? removeKey) ((entries.get? replaceKey).getD target))
        (additions prependKey (depth + 1) path entries) =
          .ok (if prependKey ∈ entries.keys then .array (listed entries prependKey)
            else .null) := by
      rw [hnull, removedBy_null]
      exact addTo_null true hprepended
    refine bind_eq_ok.mpr ⟨_, hreplaced, bind_eq_ok.mpr ⟨_, hfirst, ?_⟩⟩
    rw [hnull]
    split
    next =>
      rw [addTo_array false happended]
      simp [Json.items?]
    next hprepend =>
      rw [addTo_null false happended, if_pos (hadds.resolve_left hprepend),
        listed_of_none (Table.get?_eq_none_iff.mpr hprepend)]
      rfl

/-- Directives alone leave what they leave, and no mapping. -/
theorem mergeOnto_directivesOnly (hdepth : depth ≤ maxLevels) (hne : entries ≠ [])
    (hall : ∀ e ∈ entries, isDirective e.1 = true) (target : Json) :
    mergeOnto depth path target (.object entries) = Merge.directed depth path target entries := by
  have hfinished : ∀ rest, finished depth path entries rest = .ok rest := by
    intro rest
    rw [finished, if_pos (List.all_eq_true.mpr hall), List.isEmpty_eq_false_iff.mpr hne]
    rfl
  rw [mergeOnto_object_eq, if_neg (Nat.not_lt.mpr hdepth), funext hfinished]
  exact bind_pure _

/-- The order of directives does not matter. -/
theorem mergeOnto_directives_perm (hdepth : depth ≤ maxLevels) (hne : entries ≠ [])
    (hall : ∀ e ∈ entries, isDirective e.1 = true) (hdistinct : entries.keys.Nodup)
    (hperm : others.Perm entries) (target : Json) :
    mergeOnto depth path target (.object others) =
      mergeOnto depth path target (.object entries) := by
  have hothers : others ≠ [] := by
    rintro rfl
    exact hne (List.nil_perm.mp hperm)
  rw [mergeOnto_directivesOnly hdepth hne hall, mergeOnto_directivesOnly hdepth hothers
    fun e he => hall e (hperm.mem_iff.mp he)]
  exact directed_congr (fun key _ => Table.get?_perm hperm hdistinct key) target

/-- A mapping of directives only, merged onto an array, leaves what it puts before, then the
items of the replacement or else of the array that equal none of the removals, and then what it
puts after.  The order of the directives does not matter.  Where nothing stands it is the same,
if something replaces it or is added. -/
theorem mergeOnto_arrayDirectives (path : KeyPath) (target : Json) (hdepth : depth ≤ maxLevels)
    (h : ArrayDirectives depth entries)
    (htarget : target.isArray = true ∨ target = .null ∧
      ∃ directive ∈ [replaceKey, prependKey, appendKey], directive ∈ entries.keys) :
    mergeOnto depth path target (.object entries) = .ok (.array (listed entries prependKey ++
      (startingItems target entries).filter
        (fun item => !(listed entries removeKey).any (Json.equal item)) ++
      listed entries appendKey)) ∧
    ∀ others, others.Perm entries → mergeOnto depth path target (.object others) =
      mergeOnto depth path target (.object entries) := by
  refine ⟨?_, fun others hperm =>
    mergeOnto_directives_perm hdepth h.nonempty h.directives h.distinct hperm target⟩
  rw [mergeOnto_directivesOnly hdepth h.nonempty h.directives]
  refine h.directed ?_
  cases hv : entries.get? replaceKey with
  | some v => exact .inl (h.replacement v hv).1
  | none =>
      refine htarget.imp id ?_
      rintro ⟨rfl, directive, hdirective, hmem⟩
      refine ⟨rfl, ?_⟩
      simp only [List.mem_cons, List.not_mem_nil, or_false] at hdirective
      rcases hdirective with rfl | rfl | rfl
      · exact absurd hmem (Table.get?_eq_none_iff.mp hv)
      · exact .inl hmem
      · exact .inr hmem

/-- An array with an item twice, and a mapping in it. -/
def listWithRepeats : Json :=
  .array [.string "a", .string "b", .string "a", .object [("x", .null), ("y", .bool true)]]

/-- Directives for it.  The removal lists the mapping with its keys the other way round, and an
item that is put after the others too. -/
def listDirectives : Table Json :=
  [("__append__", .array [.string "a"]),
    ("__remove__", .array [.string "a", .object [("y", .bool true), ("x", .null)]]),
    ("__prepend__", .object [("k", .array [])])]

theorem arrayDirectives_listDirectives : ArrayDirectives 0 listDirectives where
  nonempty := by decide
  directives := by decide
  distinct := by decide
  replacement := by
    intro v hv
    cases (show none = some v from hv)
  added := by
    rintro directive (rfl | rfl) item hitem
    · obtain rfl := List.mem_singleton.mp hitem
      exact ⟨by decide, by decide, by decide⟩
    · obtain rfl := List.mem_singleton.mp hitem
      exact ⟨by decide, by decide, by decide⟩

/-- What the directives leave of the array, as they stand and the other way round. -/
theorem mergeLayer_listDirectives :
    ArrayDirectives 0 listDirectives ∧ listWithRepeats.isArray = true ∧
      mergeLayer listWithRepeats (.object listDirectives) =
        .ok (.array [.object [("k", .array [])], .string "b", .string "a"]) ∧
      mergeLayer listWithRepeats (.object listDirectives.reverse) =
        .ok (.array [.object [("k", .array [])], .string "b", .string "a"]) := by
  have hmerge := mergeOnto_arrayDirectives [] listWithRepeats (Nat.zero_le maxLevels)
    arrayDirectives_listDirectives (.inl rfl)
  refine ⟨arrayDirectives_listDirectives, rfl, hmerge.1, ?_⟩
  exact (hmerge.2 _ (List.reverse_perm listDirectives)).trans hmerge.1

end Merge

end BundleConfig
