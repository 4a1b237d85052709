import BundleConfig.KeyPath.Basic
import BundleConfig.Proofs.Json.Keys

/-!
# Reading and writing at key paths

Two paths are *related* when one of them leads through the other's node.  A
written node reads as what was written, nodes at unrelated paths read as before,
and two writes at unrelated paths can change places.

`KeyPath.set` fails inside and gives the tree back.  `Json.update` changes the
child at one step and never fails, and `set_cons` says that writing is nothing but
updates on the way down.  The laws of `set` follow from those of `update`.
-/

namespace BundleConfig

/-! ## Updating one pair of a table -/

namespace Table

variable {α : Type}

/-- The table with a change made to the value of `key`, if it is there. -/
def update : Table α → (key : String) → (change : α → α) → Table α
  | [], _, _ => []
  | (k, v) :: rest, key, change =>
      if k = key then (k, change v) :: rest else (k, v) :: update rest key change

theorem get?_update_self (t : Table α) (key : String) (change : α → α) :
    (t.update key change).get? key = (t.get? key).map change := by
  induction t with
  | nil => rfl
  | cons entry rest ih =>
      obtain ⟨k, v⟩ := entry
      by_cases h : k = key <;> simp [update, h, ih]

theorem get?_update_of_ne (t : Table α) {key other : String} (change : α → α)
    (h : other ≠ key) : (t.update key change).get? other = t.get? other := by
  induction t with
  | nil => rfl
  | cons entry rest ih =>
      obtain ⟨k, v⟩ := entry
      by_cases hk : k = key
      · simp [update, hk, Ne.symm h]
      · simp [update, hk, ih]

theorem update_update_self (t : Table α) (key : String) (f g : α → α) :
    (t.update key f).update key g = t.update key (g ∘ f) := by
  induction t with
  | nil => rfl
  | cons entry rest ih =>
      obtain ⟨k, v⟩ := entry
      by_cases h : k = key <;> simp [update, h, ih]

theorem update_comm (t : Table α) {key other : String} (f g : α → α) (h : other ≠ key) :
    (t.update key f).update other g = (t.update other g).update key f := by
  induction t with
  | nil => rfl
  | cons entry rest ih =>
      obtain ⟨k, v⟩ := entry
      by_cases hk : k = key
      · simp [update, hk, Ne.symm h]
      · by_cases ho : k = other
        · simp [update, ho, h]
        · simp [update, hk, ho, ih]

/-- A change that may fail is an update, or leaves the table as it is. -/
theorem modify?_getD {β : Type} (wrap : Table α → β) (t : Table α) (key : String)
    (change : α → Option α) :
    ((t.modify? key change).map wrap).getD (wrap t) =
      wrap (t.update key fun v => (change v).getD v) := by
  induction t generalizing wrap with
  | nil => rfl
  | cons entry rest ih =>
      obtain ⟨k, v⟩ := entry
      by_cases h : k = key
      · cases hc : change v <;> simp [modify?, update, h, hc]
      · simpa [modify?, update, h, Function.comp_def] using ih fun rest => wrap ((k, v) :: rest)

end Table

/-! ## Updating one child -/

namespace Json

/-- The tree with a change made to the child a step leads to, if there is one. -/
def update (s : Segment) (change : Json → Json) (v : Json) : Json :=
  match s, v with
  | .key name, object entries => object (Table.update entries name change)
  | .index position, array items => array (items.modify position change)
  | _, v => v

theorem step?_update_self (s : Segment) (change : Json → Json) (v : Json) :
    KeyPath.step? (update s change v) s = (KeyPath.step? v s).map change := by
  cases s with
  | key name =>
      cases v with
      | object entries => exact Table.get?_update_self entries name change
      | _ => rfl
  | index position =>
      cases v with
      | array items => exact List.getElem?_modify_eq change position items
      | _ => rfl

theorem step?_update_of_ne {s t : Segment} (h : t ≠ s) (change : Json → Json) (v : Json) :
    KeyPath.step? (update s change v) t = KeyPath.step? v t := by
  cases s with
  | key name =>
      cases v with
      | object entries =>
          cases t with
          | key other => exact Table.get?_update_of_ne entries change fun e => h (by rw [e])
          | index position => rfl
      | _ => rfl
  | index position =>
      cases v with
      | array items =>
          cases t with
          | key name => rfl
          | index other => exact List.getElem?_modify_ne change items fun e => h (by rw [e])
      | _ => rfl

theorem update_update_self (s : Segment) (f g : Json → Json) (v : Json) :
    update s g (update s f v) = update s (g ∘ f) v := by
  cases s with
  | key name =>
      cases v with
      | object entries => exact congrArg object (Table.update_update_self entries name f g)
      | _ => rfl
  | index position =>
      cases v with
      | array items => exact congrArg array (List.modify_modify_eq f g position items)
      | _ => rfl

theorem update_comm {s t : Segment} (h : t ≠ s) (f g : Json → Json) (v : Json) :
    update t g (update s f v) = update s f (update t g v) := by
  cases v with
  | object entries =>
      cases s with
      | index position => cases t <;> rfl
      | key name =>
          cases t with
          | index position => rfl
          | key other =>
              exact congrArg object (Table.update_comm entries f g fun e => h (by rw [e]))
  | array items =>
      cases s with
      | key name => cases t <;> rfl
      | index position =>
          cases t with
          | key name => rfl
          | index other =>
              exact congrArg array (List.modify_modify_ne f g items fun e => h (by rw [e]))
  | _ => cases s <;> cases t <;> rfl

end Json

namespace KeyPath

/-! ## Reading -/

@[simp] theorem get?_nil (v : Json) : get? [] v = some v := rfl

theorem get?_cons (s : Segment) (p : KeyPath) (v : Json) :
    get? (s :: p) v = (step? v s).bind (get? p) := rfl

/-- After one step the rest of a path is read from the child. -/
theorem get?_cons_of_step {s : Segment} {v w : Json} (h : step? v s = some w) (p : KeyPath) :
    get? (s :: p) v = p.get? w := by
  rw [get?_cons, h]
  rfl

/-- Reading along two paths is reading along the first and then the second. -/
theorem get?_append (p q : KeyPath) (v : Json) : get? (p ++ q) v = (p.get? v).bind q.get? := by
  induction p generalizing v with
  | nil => rfl
  | cons s rest ih =>
      rw [List.cons_append, get?_cons, get?_cons, Option.bind_assoc]
      exact congrArg _ (funext ih)

/-- A path goes on from a child as it goes on after the step to it. -/
theorem child_append (p : KeyPath) (s : Segment) (rest : KeyPath) :
    p.child s ++ rest = p ++ s :: rest := by
  rw [child, List.append_assoc, List.singleton_append]

/-- A child is read by one more step. -/
theorem get?_child (p : KeyPath) (s : Segment) (v : Json) :
    (p.child s).get? v = (p.get? v).bind (step? · s) := by
  rw [child, get?_append]
  congr 1
  funext w
  rw [get?_cons]
  cases step? w s <;> rfl

/-- A child of a distinct tree is distinct. -/
theorem distinct_of_step? {s : Segment} {v w : Json} (hd : v.Distinct)
    (h : step? v s = some w) : w.Distinct := by
  cases s with
  | key name =>
      cases v with
      | object entries => exact hd.2.of_get? h
      | _ => cases h
  | index position =>
      cases v with
      | array items => exact Json.DistinctItems.of_mem hd (List.mem_of_getElem? h)
      | _ => cases h

/-- A node of a distinct tree is distinct. -/
theorem distinct_of_get? {p : KeyPath} {v w : Json} (hd : v.Distinct)
    (h : p.get? v = some w) : w.Distinct := by
  induction p generalizing v with
  | nil =>
      cases h
      exact hd
  | cons s rest ih =>
      obtain ⟨child, hstep, hrest⟩ := Option.bind_eq_some_iff.mp h
      exact ih (distinct_of_step? hd hstep) hrest

/-- The keys on the way to a node and inside it are keys of the tree. -/
theorem mem_allKeys_of_get? {p : KeyPath} {v w : Json} (h : p.get? v = some w) {key : String}
    (hkey : .key key ∈ p ∨ key ∈ w.allKeys) : key ∈ v.allKeys := by
  induction p generalizing v with
  | nil =>
      cases h
      exact hkey.resolve_left List.not_mem_nil
  | cons s rest ih =>
      obtain ⟨child, hstep, hrest⟩ := Option.bind_eq_some_iff.mp h
      have hchild : .key key ∈ rest ∨ key ∈ w.allKeys → key ∈ child.allKeys := ih hrest
      cases s with
      | key name =>
          cases v with
          | object entries =>
              rw [Json.allKeys_object, Json.mem_allKeysOfEntries]
              refine ⟨(name, child), Table.mem_of_get? hstep, ?_⟩
              rcases hkey with hpath | hbelow
              · cases hpath with
                | head => exact Or.inl rfl
                | tail _ hpath => exact Or.inr (hchild (Or.inl hpath))
              · exact Or.inr (hchild (Or.inr hbelow))
          | _ => cases hstep
      | index position =>
          cases v with
          | array items =>
              rw [Json.allKeys_array, Json.mem_allKeysOfItems]
              refine ⟨child, List.mem_of_getElem? hstep, hchild ?_⟩
              rcases hkey with hpath | hbelow
              · cases hpath with
                | tail _ hpath => exact Or.inl hpath
              · exact Or.inr hbelow
          | _ => cases hstep

/-- No path leads to a key that is not in the tree. -/
theorem get?_child_of_not_mem {v : Json} {key : String} (h : key ∉ v.allKeys) (q : KeyPath) :
    (q.child (.key key)).get? v = none := by
  refine Option.eq_none_iff_forall_ne_some.mpr fun w hw => h (mem_allKeys_of_get? hw (Or.inl ?_))
  exact List.mem_append_right q (List.mem_singleton_self _)

/-! ## Related paths -/

theorem startsWith_iff {p top : KeyPath} : p.startsWith top = true ↔ top <+: p :=
  List.isPrefixOf_iff_prefix

/-- One of the paths leads through the node of the other. -/
def Related (p q : KeyPath) : Prop := p <+: q ∨ q <+: p

theorem Related.refl (p : KeyPath) : Related p p := Or.inl (List.prefix_refl p)

theorem Related.symm {p q : KeyPath} (h : Related p q) : Related q p := Or.symm h

theorem related_nil (p : KeyPath) : Related [] p := Or.inl List.nil_prefix

theorem related_cons {s t : Segment} {p q : KeyPath} :
    Related (s :: p) (t :: q) ↔ s = t ∧ Related p q := by
  simp only [Related, List.cons_prefix_cons]
  constructor
  · rintro (⟨h, hp⟩ | ⟨h, hq⟩)
    · exact ⟨h, Or.inl hp⟩
    · exact ⟨h.symm, Or.inr hq⟩
  · rintro ⟨rfl, hp | hq⟩
    · exact Or.inl ⟨rfl, hp⟩
    · exact Or.inr ⟨rfl, hq⟩

/-! ## Writing -/

/-- A change that may fail is a change at a position, or leaves the list as it is. -/
theorem modifyItem?_getD {β : Type} (wrap : List Json → β) (items : List Json) (position : Nat)
    (change : Json → Option Json) :
    ((modifyItem? change items position).map wrap).getD (wrap items) =
      wrap (items.modify position fun v => (change v).getD v) := by
  induction items generalizing position wrap with
  | nil => rw [List.modify_nil]; rfl
  | cons v rest ih =>
      cases position with
      | zero => cases hc : change v <;> simp [modifyItem?, hc]
      | succ n => simpa [modifyItem?, Function.comp_def] using ih (fun rest => wrap (v :: rest)) n

/-- Writing at a path updates the child at its first step. -/
theorem set_cons (s : Segment) (p : KeyPath) (new v : Json) :
    set (s :: p) new v = v.update s (p.set new) := by
  cases s with
  | key name =>
      cases v with
      | object entries => exact Table.modify?_getD Json.object entries name (set? new p)
      | _ => rfl
  | index position =>
      cases v with
      | array items => exact modifyItem?_getD Json.array items position (set? new p)
      | _ => rfl

/-- A written node reads as what was written. -/
theorem get?_set_self (p : KeyPath) (new : Json) {v : Json} (h : (p.get? v).isSome = true) :
    p.get? (p.set new v) = some new := by
  induction p generalizing v with
  | nil => rfl
  | cons s rest ih =>
      rw [set_cons, get?_cons, Json.step?_update_self]
      rw [get?_cons] at h
      cases hs : step? v s with
      | none =>
          rw [hs] at h
          cases h
      | some w =>
          rw [hs] at h
          exact ih h

/-- The nodes at unrelated paths read as before. -/
theorem get?_set_of_unrelated {p q : KeyPath} (h : ¬ Related p q) (new v : Json) :
    q.get? (p.set new v) = q.get? v := by
  induction p generalizing q v with
  | nil => exact absurd (related_nil q) h
  | cons s rest ih =>
      cases q with
      | nil => exact absurd (related_nil _).symm h
      | cons t q =>
          rw [set_cons, get?_cons, get?_cons]
          by_cases hst : t = s
          · subst hst
            rw [Json.step?_update_self, Option.bind_map]
            have hrest : ¬ Related rest q := fun hr => h (related_cons.mpr ⟨rfl, hr⟩)
            exact congrArg _ (funext fun w => ih hrest w)
          · rw [Json.step?_update_of_ne hst]

/-- Two writes at unrelated paths can change places. -/
theorem set_set_comm {p q : KeyPath} (h : ¬ Related p q) (a b v : Json) :
    q.set b (p.set a v) = p.set a (q.set b v) := by
  induction p generalizing q v with
  | nil => exact absurd (related_nil q) h
  | cons s rest ih =>
      cases q with
      | nil => exact absurd (related_nil _).symm h
      | cons t q =>
          simp only [set_cons]
          by_cases hst : t = s
          · subst hst
            have hrest : ¬ Related rest q := fun hr => h (related_cons.mpr ⟨rfl, hr⟩)
            rw [Json.update_update_self, Json.update_update_self]
            exact congrArg (fun f => Json.update t f v) (funext fun w => ih hrest w)
          · rw [Json.update_comm hst]

end KeyPath

end BundleConfig
