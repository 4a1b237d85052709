import BundleConfig.Proofs.Merge.Associativity

/-!
# Blocks that fit a layer

`Fits layer block` says node by node that a block may be merged early: onto what the layer
has at a node, if it has anything there, and with it onto any target that takes the layer.

An array and an empty mapping depend on whether they meet a mapping with entries.  So they
fit a node that tells what becomes of it over every target, and such a node is *solid*: an
array, or a mapping that is no set of directives.

A mapping with entries does not fit an empty mapping.  Over an array the layer's mapping
replaces it, and the block is merged into nothing.  Merged early the block would meet the
array.  A null or another scalar is no different, except that it replaces a mapping as well.
-/

namespace BundleConfig

namespace Merge

variable {depth : Nat} {path : KeyPath}

/-! ## Shapes -/

/-- The tree is a mapping that has entries. -/
def Full : Json → Prop
  | .object (_ :: _) => True
  | _ => False

/-- The tree is an array, or a mapping that is empty or has more than directives. -/
def Solid : Json → Prop
  | .array _ => True
  | .object entries => entries = [] ∨ (entries.all fun e => isDirective e.1) = false
  | _ => False

/-- A scalar does not see the target. -/
theorem mergeOnto_scalar_congr {block : Json} (ho : block.isObject = false)
    (ha : block.isArray = false) (target other : Json) :
    mergeOnto depth path target block = mergeOnto depth path other block := by
  cases block with
  | array items => cases ha
  | object entries => cases ho
  | _ => unfold mergeOnto; rfl

/-- An array sees of the target whether it is a mapping with entries. -/
theorem mergeOnto_array_congr {target other : Json} (ht : ¬ Full target) (ho : ¬ Full other)
    (items : List Json) :
    mergeOnto depth path target (.array items) = mergeOnto depth path other (.array items) := by
  have hclean : ∀ {t : Json}, ¬ Full t → mergeOnto depth path t (.array items) =
      if depth > maxLevels then .error (.cyclic (.nesting maxLevels path))
      else (cleanItems (depth + 1) path 0 items).map .array := by
    intro t ht
    unfold mergeOnto
    cases t with
    | object entries =>
        cases entries with
        | nil => rfl
        | cons e rest => exact absurd trivial ht
    | _ => rfl
  rw [hclean ht, hclean ho]

theorem not_full_of_array {target r : Json} {items : List Json}
    (h : mergeOnto depth path target (.array items) = .ok r) : ¬ Full target := by
  intro hfull
  unfold mergeOnto at h
  split at h
  · cases h
  · cases target with
    | object entries =>
        cases entries with
        | nil => exact hfull
        | cons e rest => cases h
    | _ => exact hfull

theorem mergeEntries_ne_nil {fields merged : Table Json} {entries : List (String × Json)}
    (hne : fields ≠ [] ∨ (entries.all fun e => isDirective e.1) = false)
    (h : mergeEntries depth path fields entries = .ok merged) : merged ≠ [] := by
  induction entries generalizing fields with
  | nil =>
      cases h
      exact hne.resolve_right (by decide)
  | cons entry rest ih =>
      obtain ⟨k, v⟩ := entry
      cases hk : isDirective k with
      | true =>
          rw [mergeEntries_directive hk] at h
          rw [List.all_cons, hk, Bool.true_and] at hne
          exact ih hne h
      | false =>
          obtain ⟨new, -, h⟩ := mergeEntries_entry hk h
          refine ih (.inl ?_) h
          intro hnil
          have hget := Table.get?_insert_self fields k new
          rw [hnil] at hget
          cases hget

/-- The empty mapping keeps a mapping and replaces everything else. -/
theorem mergeOnto_emptyObject {target r : Json} :
    mergeOnto depth path target Json.emptyObject = .ok r ↔
      depth ≤ maxLevels ∧ r = if target.isObject then target else Json.emptyObject := by
  constructor
  · intro h
    refine ⟨mergeOnto_depth h, ?_⟩
    obtain ⟨rest, hrest, ⟨-, hr⟩ | ⟨hall, -⟩⟩ := mergeOnto_object h
    · obtain rfl : target = rest := Except.ok.inj hrest
      rw [hr]
      cases target <;> rfl
    · cases hall
  · rintro ⟨hdepth, rfl⟩
    rw [Json.emptyObject, mergeOnto, if_neg (by omega)]
    cases target <;> rfl

/-- Over every target a solid node gives a mapping with entries if it is one or the target
is. -/
theorem full_mergeOnto_iff {layer target r : Json} (hlayer : Solid layer)
    (h : mergeOnto depth path target layer = .ok r) : Full r ↔ Full layer ∨ Full target := by
  cases layer with
  | array items =>
      have ht := not_full_of_array h
      obtain ⟨vs, -, rfl⟩ := mergeOnto_array h
      exact ⟨False.elim, fun hor => hor.elim id ht⟩
  | object entries =>
      cases entries with
      | nil =>
          obtain ⟨-, rfl⟩ := mergeOnto_emptyObject.mp h
          cases target <;> simp [Full, Json.isObject, Json.entries?, Json.emptyObject]
      | cons e rest =>
          have hall := hlayer.resolve_left (List.cons_ne_nil e rest)
          obtain ⟨-, _, fields, merged, -, -, hmerged, rfl⟩ := (mergeOnto_entries_iff hall).mp h
          obtain ⟨first, others, rfl⟩ :=
            List.exists_cons_of_ne_nil (mergeEntries_ne_nil (.inr hall) hmerged)
          exact ⟨fun _ => .inl trivial, fun _ => trivial⟩
  | _ => exact hlayer.elim

/-- What is merged is no mapping if the layer is none. -/
theorem isObject_of_mergeOnto {layer target r : Json} (hlayer : layer.isObject = false)
    (h : mergeOnto depth path target layer = .ok r) : r.isObject = false := by
  cases layer with
  | object entries => cases hlayer
  | array items =>
      obtain ⟨vs, -, rfl⟩ := mergeOnto_array h
      rfl
  | _ =>
      obtain rfl := mergeOnto_scalar rfl rfl h
      rfl

/-- A solid node gives a mapping if it is one. -/
theorem isObject_mergeOnto {layer target r : Json} (hlayer : Solid layer)
    (h : mergeOnto depth path target layer = .ok r) : r.isObject = layer.isObject := by
  cases layer with
  | array items =>
      obtain ⟨vs, -, rfl⟩ := mergeOnto_array h
      rfl
  | object entries =>
      rcases hlayer with rfl | hall
      · obtain ⟨-, rfl⟩ := mergeOnto_emptyObject.mp h
        cases target <;> rfl
      · obtain ⟨-, _, _, merged, -, -, -, rfl⟩ := (mergeOnto_entries_iff hall).mp h
        rfl
  | _ => exact hlayer.elim

theorem emptied_of_not_full {target : Json} (h : ¬ Full target) :
    (if target.isObject then target else Json.emptyObject) = Json.emptyObject := by
  cases target with
  | object entries =>
      cases entries with
      | nil => rfl
      | cons e rest => exact absurd trivial h
  | _ => rfl

theorem full_mergeOver_iff {layer : Option Json} {target r : Json}
    (hlayer : ∀ v, layer = some v → Solid v) (h : mergeOver depth path target layer = .ok r) :
    Full r ↔ Full (layer.getD .null) ∨ Full target := by
  cases layer with
  | none =>
      obtain rfl : target = r := Except.ok.inj h
      exact ⟨Or.inr, fun hor => hor.elim False.elim id⟩
  | some v => exact full_mergeOnto_iff (hlayer v rfl) h

/-! ## Nodes that may be merged early -/

section

variable {layer : Option Json}

theorem associates_scalar {block : Json} (ho : block.isObject = false)
    (ha : block.isArray = false) : Associates layer block := by
  intro depth path target r _ result
  constructor
  · rintro ⟨early, hearly, hresult⟩
    obtain rfl := mergeOnto_scalar ho ha hearly
    rw [mergeOnto_scalar_congr ho ha r target]
    exact hresult
  · intro hresult
    obtain rfl := mergeOnto_scalar ho ha hresult
    refine ⟨result, ?_, ?_⟩
    · rw [mergeOnto_scalar_congr ho ha _ r]
      exact hresult
    · rw [mergeOnto_scalar_congr ho ha _ r]
      exact hresult

/-- What an array leaves is the same over every target that is no mapping with entries. -/
theorem mergeOnto_array_again {target other r : Json} {items : List Json} (hother : ¬ Full other)
    (h : mergeOnto depth path target (.array items) = .ok r) :
    mergeOnto depth path other r = .ok r := by
  have hnull : ¬ Full Json.null := id
  rw [mergeOnto_array_congr (not_full_of_array h) hnull] at h
  have hagain := mergeOnto_again h path
  obtain ⟨vs, -, rfl⟩ := mergeOnto_array h
  rw [mergeOnto_array_congr hother hnull]
  exact hagain

theorem associates_array {items : List Json} (hlayer : ∀ v, layer = some v → Solid v) :
    Associates layer (.array items) := by
  intro depth path target r hr result
  have hfull := full_mergeOver_iff hlayer hr
  constructor
  · rintro ⟨early, hearly, hresult⟩
    have hold := not_full_of_array hearly
    obtain ⟨vs, -, rfl⟩ := mergeOnto_array hearly
    have htarget := not_full_of_array hresult
    rw [mergeOnto_array_again htarget hearly] at hresult
    cases hresult
    have hnot : ¬ Full r := hfull.not.mpr (not_or.mpr ⟨hold, htarget⟩)
    rw [mergeOnto_array_congr hnot hold]
    exact hearly
  · intro hresult
    obtain ⟨hold, htarget⟩ := not_or.mp (hfull.not.mp (not_full_of_array hresult))
    refine ⟨result, ?_, mergeOnto_array_again htarget hresult⟩
    rw [mergeOnto_array_congr hold (not_full_of_array hresult)]
    exact hresult

theorem associates_empty (hlayer : ∀ v, layer = some v → Solid v) :
    Associates layer Json.emptyObject := by
  intro depth path target r hr result
  cases layer with
  | none =>
      obtain rfl : target = r := Except.ok.inj hr
      constructor
      · rintro ⟨early, hearly, hresult⟩
        obtain ⟨-, rfl⟩ := mergeOnto_emptyObject.mp hearly
        exact hresult
      · intro hresult
        exact ⟨_, mergeOnto_emptyObject.mpr ⟨mergeOnto_depth hresult, rfl⟩, hresult⟩
  | some v =>
      have hr : mergeOnto depth path target v = .ok r := hr
      have hdepth := mergeOnto_depth hr
      have hkind := isObject_mergeOnto (hlayer v rfl) hr
      rw [Option.getD_some, mergeOnto_emptyObject, hkind]
      simp only [mergeOnto_emptyObject]
      cases v with
      | array items =>
          have hempty : (if target.isObject then target else Json.emptyObject) =
              Json.emptyObject := emptied_of_not_full (not_full_of_array hr)
          constructor
          · rintro ⟨early, ⟨-, rfl⟩, hresult⟩
            obtain ⟨-, rfl⟩ := mergeOnto_emptyObject.mp hresult
            exact ⟨hdepth, hempty⟩
          · rintro ⟨-, rfl⟩
            exact ⟨_, ⟨hdepth, rfl⟩, mergeOnto_emptyObject.mpr ⟨hdepth, hempty.symm⟩⟩
      | object entries =>
          constructor
          · rintro ⟨early, ⟨-, rfl⟩, hresult⟩
            exact ⟨hdepth, Except.ok.inj (hresult.symm.trans hr)⟩
          · rintro ⟨-, rfl⟩
            exact ⟨_, ⟨hdepth, rfl⟩, hr⟩
      | _ => exact (hlayer _ rfl).elim

/-- A mapping with entries does not go onto an array with items. -/
theorem associates_refused {v : Json} {rest : List Json} {block : List (String × Json)}
    (hne : block ≠ []) (hp : NoDirective block) :
    Associates (some (.array (v :: rest))) (.object block) := by
  have hrefused : ∀ {depth path w ws result},
      mergeOnto depth path (.array (w :: ws)) (.object block) ≠ .ok result := by
    intro depth path w ws result h
    obtain ⟨-, t, fields, -, ht, hfields, -⟩ := (mergeOnto_entries_iff (all_eq_false hne hp)).mp h
    rw [directed_of_noDirective hp] at ht
    cases ht
    cases hfields
  intro depth path target r hr result
  obtain ⟨vs, hvs, rfl⟩ := mergeOnto_array hr
  obtain ⟨first, others, -, -, rfl⟩ := cleanItems_cons hvs
  constructor
  · rintro ⟨early, hearly, -⟩
    exact absurd hearly hrefused
  · intro hresult
    exact absurd hresult hrefused

end

/-! ## Directives that may act early -/

theorem isObject_addTo {directive : String} {atStart : Bool} {target r : Json}
    {added : Option (Except ConfigError (List Json))} (ht : target.isObject = false)
    (h : addTo directive atStart path target added = .ok r) : r.isObject = false := by
  cases added with
  | none =>
      cases h
      exact ht
  | some items =>
      cases target with
      | null =>
          obtain ⟨_, -, rfl⟩ := map_eq_ok.mp h
          rfl
      | array old =>
          obtain ⟨_, -, rfl⟩ := map_eq_ok.mp h
          rfl
      | _ => cases h

/-- Directives leave no mapping of an array if they do not put one in its place. -/
theorem isObject_directed {target r : Json} {entries : List (String × Json)}
    (ht : target.isObject = false)
    (hreplaced : ∀ v, Table.get? entries replaceKey = some v → v.isObject = false)
    (h : directed depth path target entries = .ok r) : r.isObject = false := by
  obtain ⟨new, hnew, h⟩ := bind_eq_ok.mp h
  obtain ⟨t, hadded, h⟩ := bind_eq_ok.mp h
  refine isObject_addTo (isObject_addTo ?_ hadded) h
  have hbase : (new.getD target).isObject = false := by
    cases new with
    | none => exact ht
    | some v =>
        rw [replacement_eq] at hnew
        cases hget : Table.get? entries replaceKey with
        | none =>
            rw [hget] at hnew
            cases hnew
        | some raw =>
            rw [hget] at hnew
            obtain ⟨w, hw, heq⟩ := map_eq_ok.mp hnew
            cases heq
            exact isObject_of_mergeOnto (hreplaced raw hget) hw
  generalize new.getD target = base at hbase
  cases Table.get? entries removeKey with
  | none => exact hbase
  | some operand =>
      cases base with
      | object fields => cases hbase
      | _ => rfl

/-- Directives find an array of the layer in the result as well. -/
theorem associates_changed {items : List Json} {block : List (String × Json)}
    (hf : DirectiveFree (.array items)) (hd : (Json.array items).Distinct) (hne : block ≠ [])
    (hall : (block.all fun e => isDirective e.1) = true)
    (hreplaced : ∀ v, Table.get? block replaceKey = some v → v.isObject = false) :
    Associates (some (.array items)) (.object block) := by
  intro depth path target r hr result
  have htarget : ¬ Full target := not_full_of_array hr
  have hnull : mergeOnto depth path .null (.array items) = .ok r := by
    rw [mergeOnto_array_congr id htarget]
    exact hr
  obtain rfl := mergeOnto_null_eq _ hf hd hnull
  have hsettled : Settled depth (.array items) := (settled_null (mergeOnto_depth hr)).merge hnull
  have hagain : ∀ early, mergeOnto depth path (.array items) (.object block) = .ok early →
      mergeOnto depth path target early = .ok early := by
    intro early hearly
    have hsame := (hsettled.merge hearly).again path
    obtain ⟨rest, hrest, ⟨-, rfl⟩ | ⟨hmixed, -⟩⟩ := mergeOnto_object hearly
    · obtain ⟨e, others, rfl⟩ := List.exists_cons_of_ne_nil hne
      have hobject : rest.isObject = false := isObject_directed rfl hreplaced hrest
      cases rest with
      | object fields => cases hobject
      | array vs => exact (mergeOnto_array_congr htarget id vs).trans hsame
      | _ => exact (mergeOnto_scalar_congr rfl rfl target .null).trans hsame
    · rw [hall] at hmixed
      cases hmixed
  constructor
  · rintro ⟨early, hearly, hresult⟩
    rw [hagain early hearly] at hresult
    cases hresult
    exact hearly
  · intro hresult
    exact ⟨result, hresult, hagain result hresult⟩

/-- A replacement does not see the target. -/
theorem mergeOnto_replacement (target v : Json) :
    mergeOnto depth path target (.object [(replaceKey, v)]) =
      if depth > maxLevels then .error (.cyclic (.nesting maxLevels path))
      else mergeOnto (depth + 1) path .null v := by
  have hreplaced : replacement (depth + 1) path [(replaceKey, v)] =
      (mergeOnto (depth + 1) path .null v).map some := by
    rw [replacement, if_pos rfl]
  rw [mergeOnto, hreplaced]
  cases mergeOnto (depth + 1) path .null v <;> rfl

/-- A scalar in the place of whatever is there. -/
theorem associates_replaced {layer : Option Json} {v : Json} (ho : v.isObject = false)
    (ha : v.isArray = false) : Associates layer (.object [(replaceKey, v)]) := by
  intro depth path target r hr result
  rw [mergeOnto_replacement, mergeOnto_replacement]
  split
  next hdeep =>
    constructor
    · rintro ⟨early, hearly, -⟩
      cases hearly
    · intro hresult
      cases hresult
  next hdepth =>
    have hkept : mergeOnto depth path target v = .ok v := by
      cases v with
      | array items => cases ha
      | object entries => cases ho
      | _ =>
          unfold mergeOnto
          exact if_neg hdepth
    constructor
    · rintro ⟨early, hearly, hresult⟩
      obtain rfl := mergeOnto_scalar ho ha hearly
      rw [hkept] at hresult
      cases hresult
      exact hearly
    · intro hresult
      obtain rfl := mergeOnto_scalar ho ha hresult
      exact ⟨result, hresult, hkept⟩

/-! ## Fitting -/

/-- A block fits what a layer has at a node, if it has anything there. -/
inductive Fits : Option Json → Json → Prop
  /-- A scalar fits everywhere. -/
  | scalar {layer : Option Json} {block : Json} (ho : block.isObject = false)
      (ha : block.isArray = false) : Fits layer block
  /-- A scalar that replaces does so as well. -/
  | replaced {layer : Option Json} {v : Json} (ho : v.isObject = false)
      (ha : v.isArray = false) : Fits layer (.object [(replaceKey, v)])
  /-- An array fits nothing and a solid node. -/
  | array {layer : Option Json} {items : List Json} (h : ∀ v, layer = some v → Solid v) :
      Fits layer (.array items)
  /-- So does the empty mapping. -/
  | empty {layer : Option Json} (h : ∀ v, layer = some v → Solid v) :
      Fits layer Json.emptyObject
  /-- A mapping with entries is refused by an array with items. -/
  | refused {v : Json} {rest : List Json} {block : List (String × Json)} (hne : block ≠ [])
      (hp : NoDirective block) : Fits (some (.array (v :: rest))) (.object block)
  /-- It fits nothing and a mapping with entries, if its entries fit. -/
  | entries {layer : Option Json} {block : List (String × Json)} (hne : block ≠ [])
      (hp : NoDirective block) (hlayer : ∀ v, layer = some v → Full v)
      (h : ∀ e ∈ block, Fits (layer.bind (·.get? e.1)) e.2) : Fits layer (.object block)
  /-- Directives fit an array without directives, if they put no mapping in its place. -/
  | changed {items : List Json} {block : List (String × Json)} (hne : block ≠ [])
      (hall : (block.all fun e => isDirective e.1) = true)
      (hreplaced : ∀ v, Table.get? block replaceKey = some v → v.isObject = false)
      (hf : DirectiveFree (.array items)) : Fits (some (.array items)) (.object block)

/-- A plain mapping that has entries goes onto a tree that takes them. -/
theorem mergeOnto_plain_iff {target r : Json} {fields : Table Json}
    {block : List (String × Json)} (hne : block ≠ []) (hp : NoDirective block)
    (hfields : mappingTarget path target = .ok fields) :
    mergeOnto depth path target (.object block) = .ok r ↔ depth ≤ maxLevels ∧
      ∃ merged, mergeEntries (depth + 1) path fields block = .ok merged ∧ r = .object merged := by
  rw [mergeOnto_entries_iff (all_eq_false hne hp)]
  apply and_congr_right
  intro _
  rw [directed_of_noDirective hp]
  constructor
  · rintro ⟨rest, fields', merged, hrest, hfields', hmerged, hr⟩
    cases hrest
    rw [hfields] at hfields'
    cases hfields'
    exact ⟨merged, hmerged, hr⟩
  · rintro ⟨merged, hmerged, hr⟩
    exact ⟨target, fields, merged, rfl, hfields, hmerged, hr⟩

theorem associates_entries {layer : Option Json} {block : List (String × Json)} (hne : block ≠ [])
    (hp : NoDirective block) (hblock : (Table.keys block).Nodup)
    (hlayer : ∀ v, layer = some v → Full v) (hd : ∀ v, layer = some v → v.Distinct)
    (h : ∀ e ∈ block, Associates (layer.bind (·.get? e.1)) e.2) :
    Associates layer (.object block) := by
  intro depth path target r hr result
  obtain ⟨fields, rest, hfields, hnodup, hget, hrest, hreceives⟩ : ∃ (fields : Table Json)
      (rest : Json), mappingTarget path (layer.getD .null) = .ok fields ∧ fields.keys.Nodup ∧
      (∀ key, layer.bind (·.get? key) = fields.get? key) ∧
      directed depth path target fields = .ok rest ∧ Receives depth path rest fields r := by
    cases layer with
    | none =>
        obtain rfl : target = r := Except.ok.inj hr
        refine ⟨[], target, rfl, List.nodup_nil, fun _ => rfl, rfl, ?_, ?_⟩
        · intro fields hfields
          exact ⟨fields, rfl, hfields⟩
        · intro merged hmerged
          exact ⟨merged, hmerged, rfl⟩
    | some v =>
        cases v with
        | object fields =>
            have hfull : Full (.object fields) := hlayer _ rfl
            have hfields : fields ≠ [] := by
              rintro rfl
              exact hfull
            obtain ⟨rest, hrest, hreceives⟩ := exists_receives (.inl hfields) hr
            exact ⟨fields, rest, rfl, (hd _ rfl).1, fun _ => rfl, hrest, hreceives⟩
        | _ => exact (hlayer _ rfl).elim
  have hentries : ∀ e ∈ block, Associates (fields.get? e.1) e.2 := by
    intro e he
    rw [← hget]
    exact h e he
  by_cases hdepth : depth ≤ maxLevels
  · rw [← mergeOnto_associates hdepth hrest hreceives hne hp hblock hnodup hentries]
    constructor
    · rintro ⟨early, hearly, hresult⟩
      obtain ⟨-, merged, hmerged, rfl⟩ := (mergeOnto_plain_iff hne hp hfields).mp hearly
      exact ⟨merged, hmerged, hresult⟩
    · rintro ⟨merged, hmerged, hresult⟩
      exact ⟨_, (mergeOnto_plain_iff hne hp hfields).mpr ⟨hdepth, merged, hmerged, rfl⟩, hresult⟩
  · constructor
    · rintro ⟨early, hearly, -⟩
      exact absurd (mergeOnto_depth hearly) hdepth
    · intro hresult
      exact absurd (mergeOnto_depth hresult) hdepth

/-- A block that fits a layer may be merged early. -/
theorem Fits.associates {layer : Option Json} {block : Json} (h : Fits layer block)
    (hlayer : ∀ v, layer = some v → v.Distinct) (hblock : block.Distinct) :
    Associates layer block := by
  induction h with
  | scalar ho ha => exact associates_scalar ho ha
  | replaced ho ha => exact associates_replaced ho ha
  | array h => exact associates_array h
  | empty h => exact associates_empty h
  | refused hne hp => exact associates_refused hne hp
  | entries hne hp hfull _ ih =>
      obtain ⟨hkeys, hvalues⟩ := Json.distinct_object.mp hblock
      refine associates_entries hne hp hkeys hfull hlayer ?_
      intro e he
      refine ih e he ?_ (hvalues e he)
      intro v hv
      obtain ⟨w, hw, hv⟩ := Option.bind_eq_some_iff.mp hv
      exact (hlayer w hw).get? hv
  | changed hne hall hreplaced hf =>
      exact associates_changed hf (hlayer _ rfl) hne hall hreplaced

end Merge

end BundleConfig
