import BundleConfig.Proofs.KeyPath.Writing

/-!
# Key paths as lenses

A path reads a node with `KeyPath.get?` and replaces it with `KeyPath.set?`.  The two
are a *partial lens*: partial because the path may address nothing, through a missing
key, a position past the end of an array or a step of the wrong kind.

`KeyPath.isLens` states the laws for every path and every tree.  Reading and replacing
find a node at the same paths.  After a write the paths through the node read what was
written, the paths beside it read as before, and the nodes around it have the write
made in them, so every read after a write is told.  Writing a node back where it was
read gives the very tree, since a mapping is the list of its entries and the list is
the same.

*Found and written.*  `set?` decides whether there is a node and writes it in one
recursion.  `set?_eq` parts the two: reading tells whether there is a node, and `set`,
which never fails, tells what the tree is then.  The laws of `set` carry the rest.
-/

namespace BundleConfig

/-! ## Changes that fail and changes that do nothing -/

namespace Table

variable {α : Type}

/-- A value can be changed exactly when it is there and the change succeeds on it. -/
theorem isSome_modify? (t : Table α) (key : String) (change : α → Option α) :
    (t.modify? key change).isSome = ((t.get? key).bind change).isSome := by
  induction t with
  | nil => rfl
  | cons entry rest ih =>
      obtain ⟨k, v⟩ := entry
      by_cases hk : k = key <;> simp [modify?, hk, ih]

/-- A change that keeps the value of the key keeps the table. -/
theorem update_eq_self {t : Table α} {key : String} {change : α → α}
    (h : ∀ v, t.get? key = some v → change v = v) : t.update key change = t := by
  induction t with
  | nil => rfl
  | cons entry rest ih =>
      obtain ⟨k, v⟩ := entry
      rw [update]
      by_cases hk : k = key
      · rw [if_pos hk, h v (by simp [hk])]
      · rw [if_neg hk, ih fun w hw => h w (by simpa [hk] using hw)]

end Table

namespace Json

/-- A change that keeps the child keeps the tree. -/
theorem update_eq_self {s : Segment} {change : Json → Json} {v : Json}
    (h : ∀ w, KeyPath.step? v s = some w → change w = w) : update s change v = v := by
  cases s with
  | key name =>
      cases v with
      | object entries => exact congrArg object (Table.update_eq_self h)
      | _ => rfl
  | index position =>
      cases v with
      | array items =>
          refine congrArg array (List.ext_getElem? fun i => ?_)
          by_cases hi : position = i
          · subst hi
            rw [List.getElem?_modify_eq]
            cases hw : items[position]? with
            | none => rfl
            | some w => exact congrArg some (h w hw)
          · exact List.getElem?_modify_ne change items hi
      | _ => rfl

end Json

namespace KeyPath

/-- An item can be changed exactly when it is there and the change succeeds on it. -/
theorem isSome_modifyItem? (items : List Json) (position : Nat) (change : Json → Option Json) :
    (modifyItem? change items position).isSome = (items[position]?.bind change).isSome := by
  induction items generalizing position with
  | nil => rfl
  | cons v rest ih =>
      cases position with
      | zero => exact Option.isSome_map
      | succ n => rw [modifyItem?, Option.isSome_map, ih, List.getElem?_cons_succ]

/-! ## Found and written -/

/-- A node can be replaced exactly when it can be read. -/
theorem isSome_set? (p : KeyPath) (new v : Json) : (p.set? new v).isSome = (p.get? v).isSome := by
  induction p generalizing v with
  | nil => rfl
  | cons s rest ih =>
      have hbelow : ∀ child : Option Json,
          (child.bind (set? new rest)).isSome = (child.bind (get? rest)).isSome := by
        intro child
        cases child with
        | none => rfl
        | some w => exact ih w
      cases s with
      | key name =>
          cases v with
          | object entries =>
              rw [set?, Option.isSome_map, Table.isSome_modify?]
              exact hbelow (Table.get? entries name)
          | _ => rfl
      | index position =>
          cases v with
          | array items =>
              rw [set?, Option.isSome_map, isSome_modifyItem?]
              exact hbelow items[position]?
          | _ => rfl

/-- If there is a node to read then `set` writes there, and else nothing can be
written. -/
theorem set?_eq (p : KeyPath) (new v : Json) :
    p.set? new v = (p.get? v).map fun _ => p.set new v := by
  have hsome : (p.set? new v).isSome = (p.get? v).isSome := isSome_set? p new v
  rw [set]
  cases hold : p.get? v with
  | none =>
      have hset : p.set? new v = none := by simpa [hold] using hsome
      rw [hset, Option.map_none]
  | some old =>
      obtain ⟨w, hset⟩ : ∃ w, p.set? new v = some w := by
        simpa [hold, Option.isSome_iff_exists] using hsome
      rw [hset, Option.map_some, Option.getD_some]

/-- What a write gives, in terms of reading and of `set`. -/
theorem set?_eq_some_iff {p : KeyPath} {new v w : Json} :
    p.set? new v = some w ↔ (p.get? v).isSome = true ∧ p.set new v = w := by
  rw [set?_eq, Option.map_eq_some_iff, Option.isSome_iff_exists, exists_and_right]

/-! ## The nodes around, writing back and writing twice -/

/-- A node around the written one has the write made in it. -/
theorem get?_set_append (q rest : KeyPath) (new v : Json) :
    q.get? ((q ++ rest).set new v) = (q.get? v).map (rest.set new) := by
  induction q generalizing v with
  | nil => rfl
  | cons s q ih =>
      rw [List.cons_append, set_cons, get?_cons, get?_cons, Json.step?_update_self,
        Option.bind_map, Option.map_bind]
      exact congrArg _ (funext ih)

/-- Writing a node where it was read changes nothing. -/
theorem set_get_self {p : KeyPath} {old v : Json} (h : p.get? v = some old) :
    p.set old v = v := by
  induction p generalizing v with
  | nil =>
      cases h
      rfl
  | cons s rest ih =>
      rw [set_cons]
      apply Json.update_eq_self
      intro w hw
      exact ih ((get?_cons_of_step hw rest).symm.trans h)

/-- The last node written at a path stays. -/
theorem set_set_self (p : KeyPath) (new newer v : Json) :
    p.set newer (p.set new v) = p.set newer v := by
  induction p generalizing v with
  | nil => rfl
  | cons s rest ih =>
      rw [set_cons, set_cons, set_cons, Json.update_update_self]
      exact congrArg (fun change => Json.update s change v) (funext ih)

/-! ## The laws -/

/-- Reading and replacing the node at a path are a partial lens. -/
structure IsLens (p : KeyPath) : Prop where
  /-- There is a node to replace exactly where there is one to read. -/
  found : ∀ new v, (p.set? new v).isSome = (p.get? v).isSome
  /-- A written node reads as what was written. -/
  written : ∀ new v w, p.set? new v = some w → p.get? w = some new
  /-- A path through the written node reads on in what was written. -/
  below : ∀ new v w, p.set? new v = some w →
    ∀ q : KeyPath, q.startsWith p = true → q.get? w = get? (q.drop p.length) new
  /-- A path that does not lead through the node, nor to a node around it, reads what it
  read before. -/
  beside : ∀ new v w, p.set? new v = some w →
    ∀ q : KeyPath, q.startsWith p = false → p.startsWith q = false → q.get? w = q.get? v
  /-- A node around the written one has the write made in it and is else the same. -/
  around : ∀ new v w, p.set? new v = some w →
    ∀ q : KeyPath, p.startsWith q = true → q.get? w = (q.get? v).map (set (p.drop q.length) new)
  /-- Writing a node where it was read gives the same tree, its entries in their order. -/
  restored : ∀ old v, p.get? v = some old → p.set? old v = some v
  /-- Of two writes the last one counts. -/
  overwritten : ∀ new newer v w, p.set? new v = some w → p.set? newer w = p.set? newer v

/-- Every key path is a partial lens. -/
theorem isLens (p : KeyPath) : IsLens p where
  found := isSome_set? p
  written new v w h := by
    obtain ⟨hfound, rfl⟩ := set?_eq_some_iff.mp h
    exact get?_set_self p new hfound
  below new v w h q hq := by
    obtain ⟨hfound, rfl⟩ := set?_eq_some_iff.mp h
    obtain ⟨rest, rfl⟩ := startsWith_iff.mp hq
    rw [get?_append, get?_set_self p new hfound, Option.bind_some, List.drop_left]
  beside new v w h q hq hp := by
    obtain ⟨-, rfl⟩ := set?_eq_some_iff.mp h
    have hunrelated : ¬ Related p q := by
      rintro (hleads | hleads)
      · exact absurd (startsWith_iff.mpr hleads) (Bool.eq_false_iff.mp hq)
      · exact absurd (startsWith_iff.mpr hleads) (Bool.eq_false_iff.mp hp)
    exact get?_set_of_unrelated hunrelated new v
  around new v w h q hq := by
    obtain ⟨-, rfl⟩ := set?_eq_some_iff.mp h
    obtain ⟨rest, rfl⟩ := startsWith_iff.mp hq
    rw [get?_set_append, List.drop_left]
  restored old v h :=
    set?_eq_some_iff.mpr ⟨Option.isSome_iff_exists.mpr ⟨old, h⟩, set_get_self h⟩
  overwritten new newer v w h := by
    obtain ⟨hfound, rfl⟩ := set?_eq_some_iff.mp h
    obtain ⟨old, hold⟩ := Option.isSome_iff_exists.mp hfound
    rw [set?_eq, set?_eq, get?_set_self p new hfound, hold, set_set_self]
    rfl

/-- A mapping with a group in an array. -/
def groupedFiles : Json :=
  .object [("html", .array [.ofNat 10, .object [("b", .null), ("a", .bool true)]]),
    ("base", .string "/")]

/-- Writing at `html[1]` is seen at that path and through it, not beside it.  A position
past the end and a key of an array stay nothing, and the old group can be put back. -/
theorem isLens_groupedFiles :
    ∃ w, set? (.object [("c", .ofNat 5)]) [.key "html", .index 1] groupedFiles = some w ∧
      get? [.key "html", .index 1] w = some (.object [("c", .ofNat 5)]) ∧
      get? [.key "html", .index 1, .key "c"] w = some (.ofNat 5) ∧
      get? [.key "html", .index 1, .key "a"] w = none ∧
      get? [.key "html", .index 0] w = some (.ofNat 10) ∧
      get? [.key "html", .index 2] w = none ∧
      get? [.key "html", .key "1"] w = none ∧
      set? (.object [("b", .null), ("a", .bool true)]) [.key "html", .index 1] w =
        some groupedFiles := by
  have lens : IsLens [.key "html", .index 1] := isLens _
  obtain ⟨w, hw⟩ := Option.isSome_iff_exists.mp
    ((lens.found (.object [("c", .ofNat 5)]) groupedFiles).trans rfl)
  refine ⟨w, hw, lens.written _ _ _ hw, lens.below _ _ _ hw _ rfl, lens.below _ _ _ hw _ rfl,
    lens.beside _ _ _ hw _ rfl rfl, lens.beside _ _ _ hw _ rfl rfl,
    lens.beside _ _ _ hw _ rfl rfl, ?_⟩
  rw [lens.overwritten _ _ _ _ hw]
  exact lens.restored _ _ rfl

end KeyPath

end BundleConfig
