import BundleConfig.Proofs.Json.Order
import BundleConfig.Proofs.Merge.Paths
import BundleConfig.Proofs.Table

/-!
# How a merge fails

A layer without directives is merged node by node, in document order: a node,
then the nodes below it.  A node *clashes* when it is an array over a mapping that
has entries, or a mapping with entries over an array that has items.  It is *deep*
when it stands more than `maxLevels` levels below the root.  The merge fails with
the first node of the layer that is deep or clashes, and it succeeds when there is
none.

`fault?_mergeOnto` says just that, for a merge at any depth.  What a node meets in
the target is `metAt`.  The nodes that were merged before it do not matter, since
the keys of a mapping are distinct and items of an array meet nothing.

`mergeLayer_eq_error_iff` puts it in terms of the two trees.
-/

namespace BundleConfig

namespace Merge

/-! ## The fault of one node -/

/-- What is wrong with merging a node of a layer onto a node of a target. -/
def clash (target : Json) : (layer : Json) → Option ShapeProblem
  | .object (_ :: _) =>
      match target with
      | .array (_ :: _) => some .mappingOntoArray
      | _ => none
  | .array _ =>
      match target with
      | .object (_ :: _) => some .arrayOntoMapping
      | _ => none
  | _ => none

/-- The node of a target that the layer's node at the path is merged onto. -/
def metAt (p : KeyPath) (target : Json) : Json :=
  if isNamed p then (p.get? target).getD .null else .null

/-- The child of a target that the layer's child at the step is merged onto. -/
def metStep (target : Json) : Segment → Json
  | .key name => (target.get? name).getD .null
  | .index _ => .null

/-- The fault of the node at `p` of a layer that is merged onto the target at `path`,
`depth` levels below the root. -/
def faultAt (depth : Nat) (path : KeyPath) (target layer : Json) (p : KeyPath) :
    Option ConfigError :=
  if depth + p.length > maxLevels then some (.cyclic (.nesting maxLevels (path ++ p)))
  else ((p.get? layer).bind (clash (metAt p target))).map (.shape (path ++ p))

theorem exists_clash_iff {target layer : Json} :
    (∃ problem, clash target layer = some problem) ↔
      (∃ e es v vs, layer = .object (e :: es) ∧ target = .array (v :: vs)) ∨
        ∃ vs e es, layer = .array vs ∧ target = .object (e :: es) := by
  constructor
  · rintro ⟨problem, h⟩
    unfold clash at h
    split at h
    · split at h
      · exact Or.inl ⟨_, _, _, _, rfl, rfl⟩
      · cases h
    · split at h
      · exact Or.inr ⟨_, _, _, rfl, rfl⟩
      · cases h
    · cases h
  · rintro (⟨e, es, v, vs, rfl, rfl⟩ | ⟨vs, e, es, rfl, rfl⟩)
    · exact ⟨_, rfl⟩
    · exact ⟨_, rfl⟩

theorem metAt_null (p : KeyPath) : metAt p .null = .null := by
  unfold metAt
  split
  · cases p with
    | nil => rfl
    | cons s rest => cases s <;> rfl
  · rfl

/-- What is met, if it is anything, is the target's node at the path. -/
theorem metAt_of_ne_null {p : KeyPath} {target : Json} (h : metAt p target ≠ .null) :
    isNamed p = true ∧ p.get? target = some (metAt p target) := by
  unfold metAt at h ⊢
  split at h
  next hnamed =>
    refine ⟨hnamed, ?_⟩
    rw [if_pos hnamed]
    cases ht : p.get? target with
    | none => exact absurd (by rw [ht]; rfl) h
    | some t => rfl
  next => exact absurd rfl h

/-- Below a step the target's node is met in the child that the step meets. -/
theorem metAt_cons (s : Segment) (p : KeyPath) (target : Json) :
    metAt (s :: p) target = metAt p (metStep target s) := by
  cases s with
  | index position => exact (metAt_null p).symm
  | key name =>
      have hnamed : isNamed (.key name :: p) = isNamed p := rfl
      have hstep : KeyPath.get? (.key name :: p) target = (target.get? name).bind p.get? := rfl
      cases hv : target.get? name with
      | none =>
          rw [metStep, hv, Option.getD_none, metAt_null, metAt, hstep, hv]
          split <;> rfl
      | some v =>
          rw [metStep, hv, Option.getD_some, metAt, metAt, hnamed, hstep, hv]
          rfl

variable {depth : Nat} {path : KeyPath} {target layer : Json}

theorem faultAt_nil : faultAt depth path target layer [] =
    if depth > maxLevels then some (.cyclic (.nesting maxLevels path))
    else (clash target layer).map (.shape path) := by
  rw [faultAt, List.append_nil]
  rfl

/-- The fault of a node below a step is its fault in the child there. -/
theorem faultAt_cons {s : Segment} {v : Json} (hv : KeyPath.step? layer s = some v)
    (p : KeyPath) : faultAt depth path target layer (s :: p) =
      faultAt (depth + 1) (path.child s) (metStep target s) v p := by
  rw [faultAt, faultAt, metAt_cons, KeyPath.get?_cons_of_step hv, KeyPath.child_append,
    List.length_cons, Nat.add_right_comm, Nat.add_assoc]

/-- The fault of a node below a key depends on what the two trees have at the key. -/
theorem faultAt_key_congr {target' layer' : Json} {name : String}
    (ht : target.get? name = target'.get? name) (hl : layer.get? name = layer'.get? name)
    (p : KeyPath) : faultAt depth path target layer (.key name :: p) =
      faultAt depth path target' layer' (.key name :: p) := by
  have hstep : KeyPath.step? layer (.key name) = KeyPath.step? layer' (.key name) := hl
  have hmet : metStep target (.key name) = metStep target' (.key name) := by
    rw [metStep, metStep, ht]
  rw [faultAt, faultAt, metAt_cons, metAt_cons, hmet, KeyPath.get?_cons, KeyPath.get?_cons, hstep]

/-! ## The faults of a merge -/

theorem findSome?_congr {α β : Type} {f g : α → Option β} {xs : List α}
    (h : ∀ x ∈ xs, f x = g x) : xs.findSome? f = xs.findSome? g := by
  induction xs with
  | nil => rfl
  | cons x rest ih =>
      obtain ⟨hx, hrest⟩ := List.forall_mem_cons.mp h
      rw [List.findSome?_cons, List.findSome?_cons, hx, ih hrest]

/-- The nodes below an entry or an item are searched in the child. -/
theorem findSome?_below {s : Segment} {v : Json} (hv : KeyPath.step? layer s = some v) :
    ((v.paths.map (s :: ·)).findSome? (faultAt depth path target layer)) =
      v.paths.findSome? (faultAt (depth + 1) (path.child s) (metStep target s) v) := by
  rw [List.findSome?_map]
  exact findSome?_congr fun p _ => faultAt_cons hv p

theorem fault?_mappingTarget (path : KeyPath) (target : Json) (e : String × Json)
    (es : List (String × Json)) : fault? (mappingTarget path target) =
      (clash target (.object (e :: es))).map (.shape path) := by
  cases target with
  | array items => cases items <;> rfl
  | _ => rfl

/-- A mapping without directives merges its entries, unless it clashes. -/
theorem fault?_mergeOnto_object {entries : List (String × Json)} (hp : NoDirective entries)
    (hdepth : ¬ depth > maxLevels) :
    fault? (mergeOnto depth path target (.object entries)) =
      ((clash target (.object entries)).map (.shape path)).or
        (fault? (mergeEntries (depth + 1) path (target.entries?.getD []) entries)) := by
  rw [mergeOnto, if_neg hdepth, replacement_of_noDirective hp, get?_of_noDirective (by decide) hp,
    additions_of_noDirective (by decide) hp, additions_of_noDirective (by decide) hp]
  cases entries with
  | nil => rfl
  | cons e es =>
      have hfirst : isDirective e.1 = false := hp e List.mem_cons_self
      have hall : ((e :: es).all fun entry => isDirective entry.1) = false := by simp [hfirst]
      rw [← fault?_mappingTarget]
      show fault? (if _ then _ else mappingTarget path target >>= _) = _
      rw [hall, if_neg (by decide)]
      refine fault?_bind fun fields hfields => ?_
      rw [mappingTarget_eq hfields, fault?_bind (o := none) fun _ _ => rfl, Option.or_none]

mutual

/-- A merge fails with the first fault in document order. -/
theorem fault?_mergeOnto : ∀ (layer : Json) {depth : Nat} {path : KeyPath} {target : Json},
    DirectiveFree layer → layer.Distinct →
    fault? (mergeOnto depth path target layer) =
      layer.paths.findSome? (faultAt depth path target layer)
  | layer, depth, path, target, hf, hd => by
      by_cases hdepth : depth > maxLevels
      · have hroot : faultAt depth path target layer [] =
            some (.cyclic (.nesting maxLevels path)) := by
          rw [faultAt_nil, if_pos hdepth]
        cases layer <;>
          (unfold mergeOnto Json.paths; rw [if_pos hdepth, List.findSome?_cons, hroot]; rfl)
      have hroot : faultAt depth path target layer [] = (clash target layer).map (.shape path) := by
        rw [faultAt_nil, if_neg hdepth]
      cases layer with
      | object entries =>
          have hentries : fault? (mergeEntries (depth + 1) path (target.entries?.getD []) entries) =
              (Json.pathsOfEntries entries).findSome?
                (faultAt depth path target (.object entries)) := by
            rw [fault?_mergeEntries entries hf hd]
            refine findSome?_congr fun p hp => ?_
            obtain ⟨key, rest, rfl, -⟩ := Json.eq_key_of_mem_pathsOfEntries hp
            refine faultAt_key_congr ?_ rfl rest
            cases target <;> rfl
          rw [fault?_mergeOnto_object hf.noDirective hdepth, hentries, Json.paths,
            List.findSome?_cons, hroot]
          cases clash target (.object entries) <;> rfl
      | array items =>
          have hitems : fault? (cleanItems (depth + 1) path 0 items) =
              (Json.pathsOfItems 0 items).findSome? (faultAt depth path target (.array items)) :=
            fault?_cleanItems items (directiveFree_array.mp hf) hd List.drop_zero
          rw [Json.paths, List.findSome?_cons, hroot, ← hitems]
          unfold mergeOnto
          rw [if_neg hdepth]
          cases target with
          | object fields =>
              cases fields with
              | nil => exact fault?_map _ _
              | cons e es => rfl
          | _ => exact fault?_map _ _
      | _ =>
          unfold mergeOnto
          rw [if_neg hdepth, Json.paths_scalar rfl rfl, List.findSome?_cons, hroot]
          rfl
termination_by structural layer => layer

/-- Items fail with the first fault in document order. -/
theorem fault?_cleanItems : ∀ (items : List Json) {depth position : Nat} {path : KeyPath}
    {target : Json} {all : List Json}, (∀ v ∈ items, DirectiveFree v) →
    Json.DistinctItems items → all.drop position = items →
    fault? (cleanItems (depth + 1) path position items) =
      (Json.pathsOfItems position items).findSome? (faultAt depth path target (.array all))
  | [], _, _, _, _, _, _, _, _ => rfl
  | v :: rest, depth, position, path, target, all, hf, hd, hall => by
      obtain ⟨hv, hrest⟩ := List.forall_mem_cons.mp hf
      obtain ⟨hstep, hdrop⟩ := Json.step?_of_drop hall
      rw [cleanItems, Json.pathsOfItems, List.findSome?_append, findSome?_below hstep,
        ← fault?_mergeOnto v hv hd.1]
      refine fault?_bind fun new _ => ?_
      rw [← fault?_cleanItems rest hrest hd.2 hdrop]
      exact fault?_bind (o := none) (fun _ _ => rfl) |>.trans (Option.or_none)
termination_by structural items => items

/-- Entries fail with the first fault in document order. -/
theorem fault?_mergeEntries : ∀ (entries : List (String × Json)) {depth : Nat} {path : KeyPath}
    {fields : Table Json}, DirectiveFree (.object entries) → (Json.object entries).Distinct →
    fault? (mergeEntries (depth + 1) path fields entries) =
      (Json.pathsOfEntries entries).findSome?
        (faultAt depth path (.object fields) (.object entries))
  | [], _, _, _, _, _ => rfl
  | (key, v) :: rest, depth, path, fields, hf, hd => by
      rw [directiveFree_object] at hf
      obtain ⟨⟨hk, hv⟩, hrest⟩ := List.forall_mem_cons.mp hf
      obtain ⟨hnodup, hdv, hdrest⟩ := hd
      obtain ⟨hnotin, hnodup⟩ := List.nodup_cons.mp hnodup
      have hstep : KeyPath.step? (.object ((key, v) :: rest)) (.key key) = some v := if_pos rfl
      rw [mergeEntries, if_neg (by rw [hk]; decide), Json.pathsOfEntries, List.findSome?_append,
        findSome?_below hstep, ← fault?_mergeOnto v hv hdv]
      refine fault?_bind fun new _ => ?_
      rw [fault?_mergeEntries rest (directiveFree_object.mpr hrest) ⟨hnodup, hdrest⟩]
      refine findSome?_congr fun p hp => ?_
      obtain ⟨other, below, rfl, hmem⟩ := Json.eq_key_of_mem_pathsOfEntries hp
      have hne : other ≠ key := fun e => hnotin (e ▸ hmem)
      have hfields : (Json.object (fields.insert key new)).get? other =
          (Json.object fields).get? other := Table.get?_insert_of_ne fields new hne
      have hentries : (Json.object rest).get? other = (Json.object ((key, v) :: rest)).get? other :=
        (if_neg (Ne.symm hne)).symm
      exact faultAt_key_congr hfields hentries below
termination_by structural entries => entries

end

/-! ## Conflicts -/

/-- At the path the shapes of the two trees exclude each other, and above it both
have mappings. -/
structure Conflict (target layer : Json) (p : KeyPath) : Prop where
  /-- Both trees have a mapping at every proper prefix. -/
  mappings : ∀ q : KeyPath, q <+: p → q ≠ p →
    (∃ es, q.get? target = some (.object es)) ∧ ∃ es, q.get? layer = some (.object es)
  /-- A mapping with entries meets an array with items, or an array meets a mapping
  with entries. -/
  shapes :
    (∃ e es v vs, p.get? layer = some (.object (e :: es)) ∧
      p.get? target = some (.array (v :: vs))) ∨
    ∃ vs e es, p.get? layer = some (.array vs) ∧ p.get? target = some (.object (e :: es))

/-- A path that goes through mappings only has keys only. -/
theorem isNamed_of_mappings {p : KeyPath} {v w : Json} (hw : p.get? v = some w)
    (h : ∀ q : KeyPath, q <+: p → q ≠ p → ∃ es, q.get? v = some (.object es)) :
    isNamed p = true := by
  induction p generalizing v with
  | nil => rfl
  | cons s rest ih =>
      obtain ⟨child, hstep, hrest⟩ := Option.bind_eq_some_iff.mp hw
      obtain ⟨es, hroot⟩ := h [] List.nil_prefix (List.cons_ne_nil s rest).symm
      cases hroot
      cases s with
      | index i => cases hstep
      | key name =>
          refine ih hrest fun q hq hne => ?_
          have hbelow := h (.key name :: q) (List.cons_prefix_cons.mpr ⟨rfl, hq⟩)
            fun e => hne (List.cons.inj e).2
          rwa [KeyPath.get?_cons_of_step hstep] at hbelow

/-- A path of keys goes through mappings only. -/
theorem mappings_of_isNamed {p q : KeyPath} {v w : Json} (hn : isNamed p = true)
    (hw : p.get? v = some w) (hq : q <+: p) (hne : q ≠ p) :
    ∃ es, q.get? v = some (.object es) := by
  induction p generalizing q v with
  | nil => exact absurd (List.prefix_nil.mp hq) hne
  | cons s rest ih =>
      obtain ⟨child, hstep, hrest⟩ := Option.bind_eq_some_iff.mp hw
      cases s with
      | index i => cases hn
      | key name =>
          cases v with
          | object es =>
              cases q with
              | nil => exact ⟨es, rfl⟩
              | cons t q =>
                  obtain ⟨rfl, hbelow⟩ := List.cons_prefix_cons.mp hq
                  rw [KeyPath.get?_cons_of_step hstep]
                  exact ih hn hrest hbelow fun e => hne (by rw [e])
          | _ => cases hstep

/-- Conflicts are where a node clashes with what it meets. -/
theorem conflict_iff {target layer : Json} {p : KeyPath} :
    Conflict target layer p ↔
      ∃ v, p.get? layer = some v ∧ ∃ problem, clash (metAt p target) v = some problem := by
  constructor
  · rintro ⟨hmappings, hshapes⟩
    have hmet : ∀ t, p.get? target = some t → metAt p target = t := by
      intro t ht
      have hnamed := isNamed_of_mappings ht fun q hq hne => (hmappings q hq hne).1
      rw [metAt, if_pos hnamed, ht, Option.getD_some]
    rcases hshapes with ⟨e, es, v, vs, hlayer, htarget⟩ | ⟨vs, e, es, hlayer, htarget⟩
    · exact ⟨_, hlayer, exists_clash_iff.mpr (Or.inl ⟨e, es, v, vs, rfl, hmet _ htarget⟩)⟩
    · exact ⟨_, hlayer, exists_clash_iff.mpr (Or.inr ⟨vs, e, es, rfl, hmet _ htarget⟩)⟩
  · rintro ⟨v, hv, hclash⟩
    have hshapes := exists_clash_iff.mp hclash
    have hnull : metAt p target ≠ .null := by
      rcases hshapes with ⟨_, _, _, _, -, h⟩ | ⟨_, _, _, -, h⟩ <;> simp [h]
    obtain ⟨hnamed, htarget⟩ := metAt_of_ne_null hnull
    refine ⟨fun q hq hne => ⟨mappings_of_isNamed hnamed htarget hq hne,
      mappings_of_isNamed hnamed hv hq hne⟩, ?_⟩
    rcases hshapes with ⟨e, es, w, ws, rfl, h⟩ | ⟨vs, e, es, rfl, h⟩
    · exact Or.inl ⟨e, es, w, ws, hv, h ▸ htarget⟩
    · exact Or.inr ⟨vs, e, es, hv, h ▸ htarget⟩

/-! ## The first fault -/

section

variable {target layer : Json} {p : KeyPath}

/-- The node at the path is too deep, or there is a conflict. -/
def Faulty (target layer : Json) (p : KeyPath) : Prop :=
  256 < p.length ∨ Conflict target layer p

/-- The faulty nodes are those with a fault, of the kind that fits. -/
theorem faulty_of_faultAt {e : ConfigError} (h : faultAt 0 [] target layer p = some e) :
    (256 < p.length ∧ e = .cyclic (.nesting 256 p)) ∨
      (p.length ≤ 256 ∧ Conflict target layer p ∧ ∃ problem, e = .shape p problem) := by
  rw [faultAt, Nat.zero_add, List.nil_append] at h
  split at h
  · exact Or.inl ⟨‹_›, (Option.some.inj h).symm⟩
  · obtain ⟨problem, hfound, rfl⟩ := Option.map_eq_some_iff.mp h
    obtain ⟨v, hv, hclash⟩ := Option.bind_eq_some_iff.mp hfound
    exact Or.inr ⟨Nat.not_lt.mp ‹_›, conflict_iff.mpr ⟨v, hv, problem, hclash⟩, problem, rfl⟩

theorem faultAt_eq_none_iff : faultAt 0 [] target layer p = none ↔ ¬ Faulty target layer p := by
  rw [Faulty, conflict_iff, faultAt, Nat.zero_add, List.nil_append]
  by_cases h : 256 < p.length
  · rw [if_pos (show p.length > maxLevels from h)]
    simp [h]
  · rw [if_neg (show ¬ p.length > maxLevels from h), Option.map_eq_none_iff,
      Option.bind_eq_none_iff]
    simp [h, Option.eq_none_iff_forall_ne_some]

/-- A merge fails exactly when a node is faulty, with the fault of the first one in
document order. -/
theorem mergeLayer_eq_error_iff (hf : DirectiveFree layer) (hd : layer.Distinct)
    {e : ConfigError} : mergeLayer target layer = .error e ↔
      ∃ p, layer.FirstPath (Faulty target layer) p ∧ faultAt 0 [] target layer p = some e := by
  rw [← fault?_eq_some_iff, mergeLayer, fault?_mergeOnto layer hf hd, List.findSome?_eq_some_iff]
  constructor
  · rintro ⟨before, p, after, hpaths, hp, hbefore⟩
    have hfaulty : Faulty target layer p := by
      by_contra hnot
      rw [faultAt_eq_none_iff.mpr hnot] at hp
      cases hp
    exact ⟨p, ⟨hfaulty, before, after, hpaths,
      fun q hq => faultAt_eq_none_iff.mp (hbefore q hq)⟩, hp⟩
  · rintro ⟨p, ⟨-, before, after, hpaths, hbefore⟩, hp⟩
    exact ⟨before, p, after, hpaths, hp, fun q hq => faultAt_eq_none_iff.mpr (hbefore q hq)⟩

/-- A merge with a faulty node fails. -/
theorem mergeLayer_fails (hf : DirectiveFree layer) (hd : layer.Distinct)
    (hp : p ∈ layer.paths) (h : Faulty target layer p) :
    ∃ e, mergeLayer target layer = .error e := by
  have hsome : fault? (mergeLayer target layer) ≠ none := by
    rw [mergeLayer, fault?_mergeOnto layer hf hd]
    intro hnone
    exact faultAt_eq_none_iff.mp (List.findSome?_eq_none_iff.mp hnone p hp) h
  cases hr : mergeLayer target layer with
  | ok r => exact absurd (by rw [hr]; rfl) hsome
  | error e => exact ⟨e, rfl⟩

theorem Conflict.mem_paths (h : Conflict target layer p) : p ∈ layer.paths := by
  rcases h.shapes with ⟨e, es, v, vs, hlayer, -⟩ | ⟨vs, e, es, hlayer, -⟩
  · exact Json.mem_paths hlayer
  · exact Json.mem_paths hlayer

/-- A layer without directives that nests at most 256 levels is rejected exactly when
there is a conflict, and the error names the first one.  A layer that nests deeper is
always rejected, for its first deep node or for a conflict that comes before. -/
theorem mergeLayer_fails_exactly (hf : DirectiveFree layer) (hd : layer.Distinct) :
    ((∀ p ∈ layer.paths, p.length ≤ 256) →
      ((∃ e, mergeLayer target layer = .error e) ↔ ∃ p, Conflict target layer p) ∧
      ∀ e, mergeLayer target layer = .error e → ∃ p problem, e = .shape p problem ∧
        layer.FirstPath (Conflict target layer) p) ∧
    ((∃ p ∈ layer.paths, 256 < p.length) →
      ∃ e p, mergeLayer target layer = .error e ∧ layer.FirstPath (Faulty target layer) p ∧
        ((256 < p.length ∧ e = .cyclic (.nesting 256 p)) ∨
          (p.length ≤ 256 ∧ Conflict target layer p ∧ ∃ problem, e = .shape p problem))) := by
  constructor
  · intro hflat
    have hfirst : ∀ e, mergeLayer target layer = .error e → ∃ p problem, e = .shape p problem ∧
        layer.FirstPath (Conflict target layer) p := by
      intro e he
      obtain ⟨p, ⟨-, before, after, hpaths, hbefore⟩, hfault⟩ :=
        (mergeLayer_eq_error_iff hf hd).mp he
      have hlength : p.length ≤ 256 := hflat p (by rw [hpaths]; simp)
      rcases faulty_of_faultAt hfault with ⟨hlt, -⟩ | ⟨-, hconflict, problem, rfl⟩
      · omega
      · exact ⟨p, problem, rfl, hconflict, before, after, hpaths,
          fun q hq hc => hbefore q hq (Or.inr hc)⟩
    refine ⟨⟨?_, ?_⟩, hfirst⟩
    · rintro ⟨e, he⟩
      obtain ⟨p, -, -, hconflict, -⟩ := hfirst e he
      exact ⟨p, hconflict⟩
    · rintro ⟨p, hconflict⟩
      exact mergeLayer_fails hf hd hconflict.mem_paths (Or.inr hconflict)
  · rintro ⟨p, hp, hlength⟩
    obtain ⟨e, he⟩ : ∃ e, mergeLayer target layer = .error e :=
      mergeLayer_fails hf hd hp (Or.inl hlength)
    obtain ⟨q, hfirst, hfault⟩ := (mergeLayer_eq_error_iff hf hd).mp he
    exact ⟨e, q, he, hfirst, faulty_of_faultAt hfault⟩

end

/-- A tree with empty and other mappings and arrays. -/
def targetOfShapes : Json :=
  .object [("a", .object [("x", .array [.null])]), ("b", .object []),
    ("c", .object [("d", .object [("e", .null)]), ("f", .array [.null])])]

/-- A layer with three changes of shape that are allowed and two that are not. -/
def layerOfShapes : Json :=
  .object [("b", .array [.null]), ("a", .object [("x", .object []), ("y", .array [])]),
    ("c", .object [("f", .object [("g", .null)]), ("d", .array [])])]

/-- The first conflict is at `c.f`, though the target has `c.d` in front of it. -/
theorem mergeLayer_layerOfShapes :
    DirectiveFree layerOfShapes ∧ layerOfShapes.Distinct ∧
      (∀ p ∈ layerOfShapes.paths, p.length ≤ 256) ∧
      mergeLayer targetOfShapes layerOfShapes =
        .error (.shape [.key "c", .key "f"] .mappingOntoArray) ∧
      layerOfShapes.FirstPath (Conflict targetOfShapes layerOfShapes) [.key "c", .key "f"] := by
  have hf : DirectiveFree layerOfShapes := by decide
  have hd : layerOfShapes.Distinct := by decide
  have hflat : ∀ p ∈ layerOfShapes.paths, p.length ≤ 256 := by decide
  have h : mergeLayer targetOfShapes layerOfShapes =
      .error (.shape [.key "c", .key "f"] .mappingOntoArray) := by rfl
  obtain ⟨p, problem, he, hfirst⟩ := ((mergeLayer_fails_exactly hf hd).1 hflat).2 _ h
  cases he
  exact ⟨hf, hd, hflat, h, hfirst⟩

end Merge

end BundleConfig
