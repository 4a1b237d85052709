import BundleConfig.Proofs.KeyPath.Writing
import BundleConfig.Proofs.Merge.Plain

/-!
# Merges path by path

A layer is *plain along* a path when none of its mappings on the way to the path,
at it or below it has a directive.  Then what stands in the result at the path
depends on the layer and on one mapping of the target.

* A scalar or an array of the layer stands in the result as it is.
* A mapping of the layer gives a mapping with the target's keys, in their order,
  and then the layer's new keys in theirs.
* An entry that the layer's mapping does not have is as in the target.

The mapping of the target is `mappingAt`.  Items of an array are merged onto
nothing, so below a position there is none, whatever the target holds there.

`mergeOnto_reaches` carries the proof.  It says that the result at a path is the
merge of what the layer has there onto a node with the mapping `mappingAt`.
-/

namespace BundleConfig

namespace Merge

/-! ## Paths of keys -/

/-- Whether every step of the path is a key. -/
def isNamed (p : KeyPath) : Bool :=
  p.all fun
    | .key _ => true
    | .index _ => false

/-- The mapping of a target that a mapping of a layer at the path is merged into.
There is none when the target has no mapping there, and none below a position. -/
def mappingAt (p : KeyPath) (target : Json) : Option (Table Json) :=
  if isNamed p then (p.get? target).bind Json.entries? else none

@[simp] theorem mappingAt_index (position : Nat) (p : KeyPath) (target : Json) :
    mappingAt (.index position :: p) target = none := rfl

/-- There is no mapping in nothing. -/
theorem mappingAt_null (p : KeyPath) : mappingAt p .null = none := by
  cases p with
  | nil => rfl
  | cons s rest =>
      unfold mappingAt
      split
      · cases s <;> rfl
      · rfl

/-- Below a key the mapping is that of the key's value. -/
theorem mappingAt_key (name : String) (p : KeyPath) (target : Json) :
    mappingAt (.key name :: p) target = mappingAt p ((target.get? name).getD .null) := by
  have hnamed : isNamed (.key name :: p) = isNamed p := rfl
  cases hv : target.get? name with
  | none =>
      rw [Option.getD_none, mappingAt_null, mappingAt, KeyPath.get?_cons, KeyPath.step?, hv]
      split <;> rfl
  | some v =>
      rw [Option.getD_some, mappingAt, mappingAt, hnamed, KeyPath.get?_cons, KeyPath.step?, hv]
      rfl

/-! ## Layers that are plain along a path -/

/-- None of the layer's mappings on the way to the path has a directive. -/
def PlainAbove (p : KeyPath) (layer : Json) : Prop :=
  ∀ (q : KeyPath) (entries : List (String × Json)), q <+: p → q ≠ p →
    q.get? layer = some (.object entries) → NoDirective entries

/-- None of the layer's mappings above the path, at it or below it has a
directive. -/
structure PlainAlong (p : KeyPath) (layer : Json) : Prop where
  /-- None on the way to the path. -/
  above : PlainAbove p layer
  /-- None at the path and below it. -/
  below : ∀ v, p.get? layer = some v → DirectiveFree v

/-- The mapping at the root of a layer is plain when a path goes on below it. -/
theorem PlainAbove.noDirective {s : Segment} {p : KeyPath} {entries : List (String × Json)}
    (h : PlainAbove (s :: p) (.object entries)) : NoDirective entries :=
  h [] entries List.nil_prefix (List.cons_ne_nil s p).symm rfl

/-- A layer that is plain above a path is plain above it one step down. -/
theorem PlainAbove.step {s : Segment} {p : KeyPath} {layer v : Json}
    (h : PlainAbove (s :: p) layer) (hv : KeyPath.step? layer s = some v) : PlainAbove p v := by
  intro q entries hq hne hget
  apply h (s :: q) entries (List.cons_prefix_cons.mpr ⟨rfl, hq⟩)
  · intro e
    exact hne (List.cons.inj e).2
  · rw [KeyPath.get?_cons_of_step hv]
    exact hget

/-- A layer that is plain above a child is plain above its parent and at it. -/
theorem PlainAbove.parent {q : KeyPath} {s : Segment} {layer : Json}
    (h : PlainAbove (q.child s) layer) :
    PlainAbove q layer ∧
      ∀ entries, q.get? layer = some (.object entries) → NoDirective entries := by
  have hq : q <+: q.child s := List.prefix_append q [s]
  have hlength : (q.child s).length = q.length + 1 := List.length_append
  constructor
  · intro q' entries hq' _ hget
    apply h q' entries (hq'.trans hq) ?_ hget
    intro e
    have hle := hq'.length_le
    rw [e, hlength] at hle
    omega
  · intro entries hget
    apply h q entries hq ?_ hget
    intro e
    have hle := congrArg List.length e
    omega

/-- What the result has at a path is the merge of what the layer has there onto a
node with the mapping `mappingAt`. -/
theorem mergeOnto_reaches {p : KeyPath} {depth : Nat} {path : KeyPath} {target layer r v : Json}
    (hd : layer.Distinct) (hp : PlainAbove p layer)
    (h : mergeOnto depth path target layer = .ok r) (hv : p.get? layer = some v) :
    ∃ depth' path' old new, p.get? r = some new ∧ mergeOnto depth' path' old v = .ok new ∧
      old.entries? = mappingAt p target := by
  induction p generalizing depth path target layer r with
  | nil =>
      cases hv
      exact ⟨depth, path, target, r, rfl, h, rfl⟩
  | cons s rest ih =>
      obtain ⟨w, hw, hrest⟩ := Option.bind_eq_some_iff.mp hv
      have hbelow : PlainAbove rest w := hp.step hw
      cases s with
      | key name =>
          cases layer with
          | object entries =>
              have hplain : NoDirective entries := hp.noDirective
              obtain ⟨merged, hmerged, rfl⟩ := mergeOnto_plainObject hplain h
              obtain ⟨new, hnew, hmerge⟩ := mergeEntries_get?_of_some hplain hd.1 hmerged hw
              obtain ⟨depth', path', old, new', hget, hreach, hold⟩ :=
                ih (KeyPath.distinct_of_step? hd hw) hbelow hmerge hrest
              have hstep : KeyPath.step? (.object merged) (.key name) = some new := hnew
              refine ⟨depth', path', old, new', ?_, hreach, ?_⟩
              · rw [KeyPath.get?_cons_of_step hstep]
                exact hget
              · rw [hold, mappingAt_key, Json.get?]
                cases target <;> rfl
          | _ => cases hw
      | index position =>
          cases layer with
          | array items =>
              obtain ⟨vs, hvs, rfl⟩ := mergeOnto_array h
              obtain ⟨new, hnew, hmerge⟩ := cleanItems_getElem? hvs hw
              obtain ⟨depth', path', old, new', hget, hreach, hold⟩ :=
                ih (KeyPath.distinct_of_step? hd hw) hbelow hmerge hrest
              have hstep : KeyPath.step? (.array vs) (.index position) = some new := hnew
              refine ⟨depth', path', old, new', ?_, hreach, ?_⟩
              · rw [KeyPath.get?_cons_of_step hstep]
                exact hget
              · rw [hold, mappingAt_null, mappingAt_index]
          | _ => cases hw

/-! ## The three cases -/

section

variable {p : KeyPath} {target layer r : Json}

/-- A scalar or an array of the layer stands in the result. -/
theorem mergeLayer_value (hd : layer.Distinct) (hp : PlainAlong p layer)
    (h : mergeLayer target layer = .ok r) {v : Json} (hv : p.get? layer = some v)
    (ho : v.isObject = false) : p.get? r = some v := by
  obtain ⟨depth, path, old, new, hget, hmerge, -⟩ := mergeOnto_reaches hd hp.above h hv
  rw [hget]
  cases v with
  | object entries => cases ho
  | array items =>
      obtain ⟨vs, hvs, rfl⟩ := mergeOnto_array hmerge
      have hf : ∀ w ∈ items, DirectiveFree w := directiveFree_array.mp (hp.below _ hv)
      rw [cleanItems_eq items hf (KeyPath.distinct_of_get? hd hv) hvs]
  | _ => rw [mergeOnto_scalar rfl rfl hmerge]

/-- A mapping of the layer gives a mapping with the target's keys and then the
new ones. -/
theorem mergeLayer_keys (hd : layer.Distinct) (hp : PlainAlong p layer)
    (h : mergeLayer target layer = .ok r) {entries : List (String × Json)}
    (hv : p.get? layer = some (.object entries)) :
    ∃ fields : Table Json, p.get? r = some (.object fields) ∧
      fields.keys = Table.keys ((mappingAt p target).getD []) ++
        (Table.keys entries).filter (· ∉ Table.keys ((mappingAt p target).getD [])) := by
  obtain ⟨depth, path, old, new, hget, hmerge, hold⟩ := mergeOnto_reaches hd hp.above h hv
  have hplain : NoDirective entries := (hp.below _ hv).noDirective
  obtain ⟨merged, hmerged, rfl⟩ := mergeOnto_plainObject hplain hmerge
  rw [hold] at hmerged
  exact ⟨merged, hget, mergeEntries_keys hplain (KeyPath.distinct_of_get? hd hv).1 hmerged⟩

/-- What the layer's mapping does not have is as in the target's mapping. -/
theorem mergeLayer_absent {q : KeyPath} {s : Segment} (hd : layer.Distinct)
    (hp : PlainAlong (q.child s) layer) (h : mergeLayer target layer = .ok r)
    {entries : List (String × Json)} (hq : q.get? layer = some (.object entries))
    (hv : (q.child s).get? layer = none) :
    (q.child s).get? r =
      if (mappingAt q target).isSome then (q.child s).get? target else none := by
  obtain ⟨habove, hat⟩ := hp.above.parent
  obtain ⟨depth, path, old, new, hget, hmerge, hold⟩ := mergeOnto_reaches hd habove h hq
  obtain ⟨merged, hmerged, rfl⟩ := mergeOnto_plainObject (hat entries hq) hmerge
  rw [hold] at hmerged
  rw [KeyPath.get?_child, hq] at hv
  rw [KeyPath.get?_child, hget, KeyPath.get?_child]
  have hkept : KeyPath.step? (.object merged) s =
      KeyPath.step? (.object ((mappingAt q target).getD [])) s := by
    cases s with
    | index position => rfl
    | key name => exact mergeEntries_get?_of_none (hat entries hq) hmerged hv
  refine hkept.trans ?_
  unfold mappingAt
  cases hnamed : isNamed q with
  | false => cases s <;> rfl
  | true =>
      cases hold : q.get? target with
      | none => cases s <;> rfl
      | some v => cases v <;> cases s <;> rfl

/-- What the result of a merge holds at a path along which the layer is plain. -/
theorem mergeLayer_path_by_path (hd : layer.Distinct) (h : mergeLayer target layer = .ok r)
    (hp : PlainAlong p layer) :
    (∀ v, p.get? layer = some v → v.isObject = false → p.get? r = some v) ∧
      (∀ entries, p.get? layer = some (.object entries) →
        ∃ fields : Table Json, p.get? r = some (.object fields) ∧
          fields.keys = Table.keys ((mappingAt p target).getD []) ++
            (Table.keys entries).filter (· ∉ Table.keys ((mappingAt p target).getD []))) ∧
      (∀ (q : KeyPath) s entries, p = q.child s → q.get? layer = some (.object entries) →
        p.get? layer = none →
        p.get? r = if (mappingAt q target).isSome then p.get? target else none) := by
  refine ⟨?_, ?_, ?_⟩
  · intro v hv ho
    exact mergeLayer_value hd hp h hv ho
  · intro entries hv
    exact mergeLayer_keys hd hp h hv
  · rintro q s entries rfl hq hv
    exact mergeLayer_absent hd hp h hq hv

end

/-- A target whose key `a` has two entries. -/
def targetOfKeys : Json :=
  .object [("a", .object [("x", .null), ("b", .bool true)]), ("z", .null)]

/-- A layer with an old and a new key at the root and at `a`. -/
def layerOfKeys : Json :=
  .object [("m", .null), ("a", .object [("b", .object []), ("y", .null)])]

/-- The result of merging `layerOfKeys` onto `targetOfKeys`. -/
def resultOfKeys : Json :=
  .object [("a", .object [("x", .null), ("b", .object []), ("y", .null)]), ("z", .null),
    ("m", .null)]

/-- The keys at `a` after `layerOfKeys` was merged onto `targetOfKeys`. -/
theorem mergeLayer_layerOfKeys :
    layerOfKeys.Distinct ∧ mergeLayer targetOfKeys layerOfKeys = .ok resultOfKeys ∧
      PlainAlong [.key "a"] layerOfKeys ∧
      ∃ fields : Table Json, KeyPath.get? [.key "a"] resultOfKeys = some (.object fields) ∧
        fields.keys = ["x", "b", "y"] := by
  have hd : layerOfKeys.Distinct := by decide
  have h : mergeLayer targetOfKeys layerOfKeys = .ok resultOfKeys := by rfl
  have hp : PlainAlong [.key "a"] layerOfKeys := by
    constructor
    · intro q entries hq hne hget
      rcases List.prefix_cons_iff.mp hq with rfl | ⟨rest, rfl, hrest⟩
      · cases hget
        unfold NoDirective
        decide
      · rw [List.prefix_nil.mp hrest] at hne
        exact absurd rfl hne
    · intro v hv
      cases hv
      decide
  exact ⟨hd, h, hp, (mergeLayer_path_by_path hd h hp).2.1 _ rfl⟩

/-! ## Items are not merged -/

/-- A target with a mapping in an array. -/
def targetOfItems : Json := .object [("a", .array [.object [("x", .null)]])]

/-- A layer with a mapping at the same position. -/
def layerOfItems : Json :=
  .object [("a", .array [.object [("y", .null)], .object [("__replace__", .null)]])]

/-- The layer is plain along the path to the first item, and both have a mapping
there.  But the result has only the keys of the layer's. -/
theorem mergeLayer_layerOfItems :
    layerOfItems.Distinct ∧ PlainAlong [.key "a", .index 0] layerOfItems ∧
      KeyPath.get? [.key "a", .index 0] targetOfItems = some (.object [("x", .null)]) ∧
      KeyPath.get? [.key "a", .index 0] layerOfItems = some (.object [("y", .null)]) ∧
      mergeLayer targetOfItems layerOfItems =
        .ok (.object [("a", .array [.object [("y", .null)], .null])]) ∧
      ¬ ∃ fields : Table Json,
        KeyPath.get? [.key "a", .index 0]
          (.object [("a", .array [.object [("y", .null)], .null])]) = some (.object fields) ∧
        fields.keys = ["x"] ++ ["y"].filter (· ∉ ["x"]) := by
  have hd : layerOfItems.Distinct := by decide
  have hp : PlainAlong [.key "a", .index 0] layerOfItems := by
    constructor
    · intro q entries hq hne hget
      rcases List.prefix_cons_iff.mp hq with rfl | ⟨rest, rfl, hrest⟩
      · cases hget
        unfold NoDirective
        decide
      · rcases List.prefix_cons_iff.mp hrest with rfl | ⟨rest', rfl, hrest'⟩
        · cases hget
        · rw [List.prefix_nil.mp hrest'] at hne
          exact absurd rfl hne
    · intro v hv
      cases hv
      decide
  refine ⟨hd, hp, rfl, rfl, by rfl, ?_⟩
  rintro ⟨fields, hget, hkeys⟩
  cases hget
  exact absurd hkeys (by decide)

end Merge

end BundleConfig
