import BundleConfig.Proofs.Json.Keys
import BundleConfig.Proofs.Merge.Invariant

/-!
# Directives do not leak

`mergeLayers_directiveFree` says that a merge onto a tree without directives
gives a tree without directives, whatever the layers hold and wherever they hold
it.  To have no directive is a stable property of trees: a merge writes no key
that is one.
-/

namespace BundleConfig

namespace Merge

/-- No key of the tree, at whatever depth, is a directive. -/
def DirectiveFree (v : Json) : Prop := ∀ key ∈ v.allKeys, isDirective key = false

instance (v : Json) : Decidable (DirectiveFree v) :=
  inferInstanceAs (Decidable (∀ key ∈ v.allKeys, isDirective key = false))

/-! ## Trees without directives -/

theorem directiveFree_array {items : List Json} :
    DirectiveFree (.array items) ↔ ∀ v ∈ items, DirectiveFree v := by
  simp only [DirectiveFree, Json.allKeys_array, Json.mem_allKeysOfItems]
  constructor
  · intro h v hv key hkey
    exact h key ⟨v, hv, hkey⟩
  · rintro h key ⟨v, hv, hkey⟩
    exact h v hv key hkey

theorem directiveFree_object {entries : List (String × Json)} :
    DirectiveFree (.object entries) ↔
      ∀ e ∈ entries, isDirective e.1 = false ∧ DirectiveFree e.2 := by
  simp only [DirectiveFree, Json.allKeys_object, Json.mem_allKeysOfEntries]
  constructor
  · intro h e he
    exact ⟨h e.1 ⟨e, he, Or.inl rfl⟩, fun key hkey => h key ⟨e, he, Or.inr hkey⟩⟩
  · rintro h key ⟨e, he, rfl | hkey⟩
    · exact (h e he).1
    · exact (h e he).2 key hkey

/-- A tree without directives keeps being one. -/
theorem stable_directiveFree : Stable fun _ => DirectiveFree where
  scalar := by
    intro _ v _ ho ha
    cases v with
    | array items => cases ha
    | object entries => cases ho
    | _ => intro key hkey; cases hkey
  array_iff := fun _ => directiveFree_array
  empty := fun _ => directiveFree_object.mpr (by intro e he; cases he)
  of_get? := fun h hv => (directiveFree_object.mp h _ (Table.mem_of_get? hv)).2
  insert := by
    intro _ fields key v h hk hv
    rw [directiveFree_object] at h ⊢
    intro e he
    rcases Table.mem_of_mem_insert he with he | rfl
    · exact h e he
    · exact ⟨hk, hv⟩
  erase := by
    intro _ fields key h
    rw [directiveFree_object] at h ⊢
    exact fun e he => h e (Table.mem_of_mem_erase he)
  raise := id

/-- A layer leaves no directive in a target without directives. -/
theorem mergeOnto_directiveFree (layer : Json) {depth : Nat} {path : KeyPath} {target r : Json}
    (ht : DirectiveFree target) (h : mergeOnto depth path target layer = .ok r) :
    DirectiveFree r :=
  mergeOnto_stable stable_directiveFree layer (fun _ => ht) h

/-- Merging layers onto a tree without directives gives a tree without
directives. -/
theorem mergeLayers_directiveFree {target r : Json} {layers : List Json}
    (ht : DirectiveFree target) (h : mergeLayers target layers = .ok r) : DirectiveFree r := by
  induction layers generalizing target with
  | nil =>
      cases h
      exact ht
  | cons layer rest ih =>
      obtain ⟨t, hlayer, hrest⟩ := bind_eq_ok.mp h
      exact ih (mergeOnto_directiveFree layer ht hlayer) hrest

/-- Layers with directives below missing keys, inside operands of others and inside
an array. -/
def nestedDirectives : List Json :=
  [.object
      [("a", .object [("__append__", .array
        [.object [("b", .object [("__replace__", .object [("__prepend__", .bool true)])])]])]),
        ("c", .array [.object [("__append__", .null)]])],
    .object
      [("d", .object
        [("__remove__", .string "z"), ("__prepend__", .object [("__remove__", .null)])])]]

/-- What `nestedDirectives` leave in a tree. -/
theorem mergeLayers_nestedDirectives :
    DirectiveFree (.object [("d", .array [.string "z"])]) ∧
      mergeLayers (.object [("d", .array [.string "z"])]) nestedDirectives =
        .ok (.object [("d", .array [.null]), ("a", .array [.object [("b", .array [.bool true])]]),
          ("c", .array [.array [.null]])]) ∧
      DirectiveFree (.object [("d", .array [.null]),
        ("a", .array [.object [("b", .array [.bool true])]]), ("c", .array [.array [.null]])]) := by
  have ht : DirectiveFree (.object [("d", .array [.string "z"])]) := by decide
  have hr : mergeLayers (.object [("d", .array [.string "z"])]) nestedDirectives =
      .ok (.object [("d", .array [.null]), ("a", .array [.object [("b", .array [.bool true])]]),
        ("c", .array [.array [.null]])]) := by rfl
  exact ⟨ht, hr, mergeLayers_directiveFree ht hr⟩

end Merge

end BundleConfig
