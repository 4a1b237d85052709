import BundleConfig.Proofs.Merge.Levels

/-!
# Merging early and late

A block can be merged onto a layer before the layer is merged onto a target, or onto the
target after the layer.  The block is then merged *early* or *late*.

Both come to the same if the block *fits* the layer.  It does not fit where it meets another
node early than late.  Early it meets the layer, whose scalars, empty mappings and missing
keys say nothing of the target.  Late it meets what the layer has made of the target.  So a
mapping fits where the layer has a mapping with entries, which is merged key by key both
times, or nothing at all.  A directive fits where the layer has an array, since that is what
it finds both times.

`Fits.associates` is an induction on how a block fits, with a theorem for each case.  For
mappings it goes through the entries (`mergeEntries_associates`): to write one entry of the
block into the layer is to write one more entry into the result (`mergeEntries_insert`).
-/

namespace BundleConfig

namespace Merge

variable {depth : Nat} {path : KeyPath}

/-! ## Entries -/

/-- A written key that the entries do not have stays written. -/
theorem mergeEntries_written {fields merged : Table Json} {entries : List (String × Json)}
    {key : String} (hnotin : key ∉ Table.keys entries) (hkey : key ∈ fields.keys)
    (h : mergeEntries depth path fields entries = .ok merged) (v : Json) :
    mergeEntries depth path (fields.insert key v) entries = .ok (merged.insert key v) := by
  induction entries generalizing fields with
  | nil =>
      cases h
      rfl
  | cons entry rest ih =>
      obtain ⟨k, u⟩ := entry
      obtain ⟨hne, hnotin⟩ := not_or.mp (List.mem_cons.not.mp hnotin)
      cases hk : isDirective k with
      | true =>
          rw [mergeEntries_directive hk] at h ⊢
          exact ih hnotin hkey h
      | false =>
          rw [mergeEntries_cons_iff hk] at h ⊢
          obtain ⟨new, hnew, h⟩ := h
          refine ⟨new, ?_, ?_⟩
          · rw [Table.get?_insert_of_ne fields v (Ne.symm hne)]
            exact hnew
          · rw [Table.insert_comm hkey (Ne.symm hne)]
            refine ih hnotin ?_ h
            rw [Table.keys_insert]
            split
            · exact hkey
            · exact List.mem_append_left _ hkey

/-- Writing an entry into a layer writes one into its result. -/
theorem mergeEntries_insert {fields layer merged : Table Json} {key : String}
    (hk : isDirective key = false) (hn : layer.keys.Nodup)
    (h : mergeEntries depth path fields layer = .ok merged) (v : Json) (r : Table Json) :
    mergeEntries depth path fields (layer.insert key v) = .ok r ↔
      ∃ new, mergeOnto depth (path.child (.key key)) ((fields.get? key).getD .null) v = .ok new ∧
        r = merged.insert key new := by
  induction layer generalizing fields with
  | nil =>
      cases h
      rw [Table.insert, mergeEntries_cons_iff hk]
      simp only [mergeEntries, Except.ok.injEq, eq_comm]
  | cons entry rest ih =>
      obtain ⟨k, u⟩ := entry
      obtain ⟨hnotin, hn⟩ := List.nodup_cons.mp hn
      rw [Table.insert]
      by_cases he : k = key
      · subst he
        rw [if_pos rfl, mergeEntries_cons_iff hk]
        obtain ⟨old, -, h⟩ := mergeEntries_entry hk h
        have hold : k ∈ (fields.insert k old).keys := by
          rw [← Table.contains_iff, Table.contains, Table.get?_insert_self]
          rfl
        apply exists_congr
        intro new
        apply and_congr_right
        intro _
        rw [← Table.insert_insert_self fields k old new, mergeEntries_written hnotin hold h,
          Except.ok.injEq, eq_comm]
      · rw [if_neg he]
        cases hkey : isDirective k with
        | true =>
            rw [mergeEntries_directive hkey] at h ⊢
            exact ih hn h
        | false =>
            obtain ⟨new, hnew, h⟩ := mergeEntries_entry hkey h
            have hsame : (fields.insert k new).get? key = fields.get? key :=
              Table.get?_insert_of_ne fields new (Ne.symm he)
            rw [← hsame, ← ih hn h, mergeEntries_cons_iff hkey]
            constructor
            · rintro ⟨new', hnew', h'⟩
              rw [hnew] at hnew'
              cases hnew'
              exact h'
            · intro h'
              exact ⟨new, hnew, h'⟩

/-- What a node becomes when a layer that may have nothing there is merged onto it. -/
def mergeOver (depth : Nat) (path : KeyPath) (target : Json) : Option Json → Except ConfigError Json
  | none => .ok target
  | some layer => mergeOnto depth path target layer

/-- A key of the result has the merge of what the layer has at the key onto the old value. -/
theorem mergeEntries_get? {fields layer merged : Table Json} {key : String}
    (hk : isDirective key = false) (hn : layer.keys.Nodup)
    (h : mergeEntries depth path fields layer = .ok merged) :
    mergeOver depth (path.child (.key key)) ((fields.get? key).getD .null) (layer.get? key) =
      .ok ((merged.get? key).getD .null) := by
  induction layer generalizing fields with
  | nil =>
      cases h
      rfl
  | cons entry rest ih =>
      obtain ⟨k, v⟩ := entry
      obtain ⟨hnotin, hn⟩ := List.nodup_cons.mp hn
      rw [Table.get?_cons]
      by_cases he : k = key
      · subst he
        obtain ⟨new, hnew, h⟩ := mergeEntries_entry hk h
        have hrest := ih hn h
        rw [Table.get?_eq_none_iff.mpr hnotin, Table.get?_insert_self] at hrest
        rw [if_pos rfl, ← hrest]
        exact hnew
      · rw [if_neg he]
        cases hkey : isDirective k with
        | true =>
            rw [mergeEntries_directive hkey] at h
            exact ih hn h
        | false =>
            obtain ⟨new, -, h⟩ := mergeEntries_entry hkey h
            rw [← ih hn h, Table.get?_insert_of_ne fields new (Ne.symm he)]

theorem mergeEntries_nodup {fields merged : Table Json} {entries : List (String × Json)}
    (hn : fields.keys.Nodup) (h : mergeEntries depth path fields entries = .ok merged) :
    merged.keys.Nodup := by
  induction entries generalizing fields with
  | nil =>
      cases h
      exact hn
  | cons entry rest ih =>
      obtain ⟨k, v⟩ := entry
      cases hk : isDirective k with
      | true =>
          rw [mergeEntries_directive hk] at h
          exact ih hn h
      | false =>
          obtain ⟨new, -, h⟩ := mergeEntries_entry hk h
          exact ih (Table.keys_insert_nodup hn k new) h

/-- A block gives the same, merged onto what a layer has at a node and with it onto any
target, or merged onto that target after the layer. -/
def Associates (layer : Option Json) (block : Json) : Prop :=
  ∀ ⦃depth : Nat⦄ ⦃path : KeyPath⦄ ⦃target r : Json⦄,
    mergeOver depth path target layer = .ok r → ∀ result,
      (∃ early, mergeOnto depth path (layer.getD .null) block = .ok early ∧
          mergeOnto depth path target early = .ok result) ↔
        mergeOnto depth path r block = .ok result

/-- Entries may be merged early if each of them may. -/
theorem mergeEntries_associates {fields layer merged : Table Json} {block : List (String × Json)}
    (hp : NoDirective block) (hblock : (Table.keys block).Nodup) (hlayer : layer.keys.Nodup)
    (hassociates : ∀ e ∈ block, Associates (layer.get? e.1) e.2)
    (h : mergeEntries depth path fields layer = .ok merged) (result : Table Json) :
    (∃ early, mergeEntries depth path layer block = .ok early ∧
        mergeEntries depth path fields early = .ok result) ↔
      mergeEntries depth path merged block = .ok result := by
  induction block generalizing layer merged with
  | nil =>
      rw [mergeEntries, mergeEntries, ← h]
      simp
  | cons entry rest ih =>
      obtain ⟨key, v⟩ := entry
      obtain ⟨hk, hp⟩ := noDirective_cons.mp hp
      obtain ⟨hnotin, hblock⟩ := List.nodup_cons.mp hblock
      obtain ⟨hfirst, hrest⟩ := List.forall_mem_cons.mp hassociates
      have hnode := hfirst (mergeEntries_get? hk hlayer h)
      have hothers : ∀ w, ∀ e ∈ rest, Associates ((layer.insert key w).get? e.1) e.2 := by
        intro w e he
        have hin : e.1 ∈ Table.keys rest := List.mem_map_of_mem he
        have hne : e.1 ≠ key := fun heq => hnotin (heq ▸ hin)
        rw [Table.get?_insert_of_ne layer w hne]
        exact hrest e he
      have hstep : ∀ w new, mergeOnto depth (path.child (.key key))
          ((fields.get? key).getD .null) w = .ok new →
          mergeEntries depth path fields (layer.insert key w) = .ok (merged.insert key new) := by
        intro w new hnew
        exact (mergeEntries_insert hk hlayer h w _).mpr ⟨new, hnew, rfl⟩
      simp only [mergeEntries_cons_iff hk]
      constructor
      · rintro ⟨early, ⟨w, hw, hearly⟩, hresult⟩
        have hget : early.get? key = some w := by
          rw [mergeEntries_get?_of_none hp hearly (Table.get?_eq_none_iff.mpr hnotin)]
          exact Table.get?_insert_self layer key w
        have hnodup := mergeEntries_nodup (Table.keys_insert_nodup hlayer key w) hearly
        have hnew := mergeEntries_get? hk hnodup hresult
        rw [hget] at hnew
        refine ⟨_, (hnode _).mp ⟨w, hw, hnew⟩, ?_⟩
        exact (ih hp hblock (Table.keys_insert_nodup hlayer key w) (hothers w)
          (hstep w _ hnew)).mp ⟨early, hearly, hresult⟩
      · rintro ⟨new, hnew, hresult⟩
        obtain ⟨w, hw, hnew⟩ := (hnode new).mpr hnew
        obtain ⟨early, hearly, hresult⟩ := (ih hp hblock (Table.keys_insert_nodup hlayer key w)
          (hothers w) (hstep w new hnew)).mpr hresult
        exact ⟨early, ⟨w, hw, hearly⟩, hresult⟩

/-! ## Directives of a mapping -/

/-- What the directives among entries leave of a target. -/
def directed (depth : Nat) (path : KeyPath) (target : Json) (entries : List (String × Json)) :
    Except ConfigError Json :=
  applyDirectives path target (replacement (depth + 1) path entries)
    (Table.get? entries removeKey) (additions prependKey (depth + 1) path entries)
    (additions appendKey (depth + 1) path entries)

/-- Entries with the same directives leave the same. -/
theorem directed_congr {entries others : List (String × Json)}
    (h : ∀ key, isDirective key = true → Table.get? entries key = Table.get? others key)
    (target : Json) : directed depth path target entries = directed depth path target others := by
  simp only [directed, replacement_eq, additions_eq, h replaceKey (by decide),
    h removeKey (by decide), h prependKey (by decide), h appendKey (by decide)]

/-- A merge writes no directive and takes none away. -/
theorem mergeEntries_get?_directive {fields merged : Table Json} {entries : List (String × Json)}
    (h : mergeEntries depth path fields entries = .ok merged) {key : String}
    (hd : isDirective key = true) : merged.get? key = fields.get? key := by
  induction entries generalizing fields with
  | nil =>
      cases h
      rfl
  | cons entry rest ih =>
      obtain ⟨k, v⟩ := entry
      cases hk : isDirective k with
      | true =>
          rw [mergeEntries_directive hk] at h
          exact ih h
      | false =>
          obtain ⟨new, -, h⟩ := mergeEntries_entry hk h
          have hne : key ≠ k := by
            rintro rfl
            rw [hd] at hk
            cases hk
          rw [ih h, Table.get?_insert_of_ne fields new hne]

/-- Directives alone are no entries to merge. -/
theorem mergeEntries_of_all {fields : Table Json} {entries : List (String × Json)}
    (h : (entries.all fun e => isDirective e.1) = true) :
    mergeEntries depth path fields entries = .ok fields := by
  induction entries with
  | nil => rfl
  | cons entry rest ih =>
      obtain ⟨k, v⟩ := entry
      rw [List.all_cons, Bool.and_eq_true] at h
      rw [mergeEntries_directive h.1]
      exact ih h.2

/-- How a mapping that has more than directives is merged. -/
theorem mergeOnto_entries_iff {target r : Json} {entries : List (String × Json)}
    (hall : (entries.all fun e => isDirective e.1) = false) :
    mergeOnto depth path target (.object entries) = .ok r ↔
      depth ≤ maxLevels ∧ ∃ rest fields merged, directed depth path target entries = .ok rest ∧
        mappingTarget path rest = .ok fields ∧
        mergeEntries (depth + 1) path fields entries = .ok merged ∧ r = .object merged := by
  constructor
  · intro h
    refine ⟨mergeOnto_depth h, ?_⟩
    obtain ⟨rest, hrest, hdone | ⟨-, fields, merged, hfields, hmerged, hr⟩⟩ := mergeOnto_object h
    · rw [hdone.1] at hall
      cases hall
    · exact ⟨rest, fields, merged, hrest, hfields, hmerged, hr⟩
  · rintro ⟨hdepth, rest, fields, merged, hrest, hfields, hmerged, rfl⟩
    rw [mergeOnto, if_neg (by omega)]
    refine bind_eq_ok.mpr ⟨rest, hrest, ?_⟩
    rw [if_neg (by rw [hall]; decide)]
    refine bind_eq_ok.mpr ⟨fields, hfields, ?_⟩
    exact bind_eq_ok.mpr ⟨merged, hmerged, rfl⟩

/-! ## Mappings -/

/-- The result of a layer takes entries where what its directives leave does, after the
layer's own. -/
structure Receives (depth : Nat) (path : KeyPath) (rest : Json) (layer : Table Json) (r : Json) :
    Prop where
  /-- Where the rest takes entries, so does the result. -/
  forward : ∀ fields, mappingTarget path rest = .ok fields → ∃ merged,
    mergeEntries (depth + 1) path fields layer = .ok merged ∧ mappingTarget path r = .ok merged
  /-- Where the result takes entries, so does the rest. -/
  backward : ∀ merged, mappingTarget path r = .ok merged → ∃ fields,
    mappingTarget path rest = .ok fields ∧
      mergeEntries (depth + 1) path fields layer = .ok merged

/-- A mapping that has entries, and every mapping over a mapping, gives such a result. -/
theorem exists_receives {target r : Json} {layer : Table Json}
    (hne : layer ≠ [] ∨ target.isObject = true)
    (h : mergeOnto depth path target (.object layer) = .ok r) :
    ∃ rest, directed depth path target layer = .ok rest ∧ Receives depth path rest layer r := by
  obtain ⟨rest, hrest, ⟨hall, hr⟩ | ⟨-, fields, merged, hfields, hmerged, rfl⟩⟩ :=
    mergeOnto_object h
  · have hsame : r = rest := by
      rw [hr]
      cases layer with
      | nil =>
          obtain rfl : target = rest := Except.ok.inj hrest
          rw [hne.resolve_left (fun hnil => hnil rfl)]
          rfl
      | cons entry others => rfl
    subst hsame
    refine ⟨r, hrest, ?_, ?_⟩
    · intro fields hfields
      exact ⟨fields, mergeEntries_of_all hall, hfields⟩
    · intro merged hmerged
      exact ⟨merged, hmerged, mergeEntries_of_all hall⟩
  · refine ⟨rest, hrest, ?_, ?_⟩
    · intro fields' hfields'
      rw [hfields] at hfields'
      cases hfields'
      exact ⟨merged, hmerged, rfl⟩
    · intro merged' hmerged'
      cases hmerged'
      exact ⟨fields, hfields, hmerged⟩

/-- Where there is no directive the target is left. -/
theorem directed_of_noDirective {entries : List (String × Json)} (hp : NoDirective entries)
    (target : Json) : directed depth path target entries = .ok target := by
  rw [directed, replacement_of_noDirective hp, get?_of_noDirective (by decide) hp,
    additions_of_noDirective (by decide) hp, additions_of_noDirective (by decide) hp]
  rfl

theorem all_eq_false {block : List (String × Json)} (hne : block ≠ []) (hp : NoDirective block) :
    (block.all fun e => isDirective e.1) = false := by
  obtain ⟨e, rest, rfl⟩ := List.exists_cons_of_ne_nil hne
  rw [List.all_cons, hp e List.mem_cons_self, Bool.false_and]

/-- A plain mapping that has entries may be merged early if its entries may. -/
theorem mergeOnto_associates {target r rest : Json} {layer : Table Json}
    {block : List (String × Json)} (hdepth : depth ≤ maxLevels)
    (hrest : directed depth path target layer = .ok rest)
    (hreceives : Receives depth path rest layer r) (hne : block ≠ []) (hp : NoDirective block)
    (hblock : (Table.keys block).Nodup) (hlayer : layer.keys.Nodup)
    (hassociates : ∀ e ∈ block, Associates (layer.get? e.1) e.2) (result : Json) :
    (∃ early, mergeEntries (depth + 1) path layer block = .ok early ∧
        mergeOnto depth path target (.object early) = .ok result) ↔
      mergeOnto depth path r (.object block) = .ok result := by
  have hplain : directed depth path r block = .ok r := directed_of_noDirective hp r
  have hmixed : ∀ early, mergeEntries (depth + 1) path layer block = .ok early →
      (early.all fun e => isDirective e.1) = false := by
    intro early hearly
    obtain ⟨e, others, rfl⟩ := List.exists_cons_of_ne_nil hne
    obtain ⟨new, hnew, -⟩ := mergeEntries_get?_of_some hp hblock hearly (if_pos rfl)
    rw [List.all_eq_false]
    exact ⟨_, Table.mem_of_get? hnew, by rw [hp e List.mem_cons_self]; decide⟩
  rw [mergeOnto_entries_iff (all_eq_false hne hp)]
  constructor
  · rintro ⟨early, hearly, hresult⟩
    rw [mergeOnto_entries_iff (hmixed early hearly),
      directed_congr (fun _ => mergeEntries_get?_directive hearly) target, hrest] at hresult
    obtain ⟨-, _, fields, merged, hsame, hfields, hmerged, rfl⟩ := hresult
    cases hsame
    obtain ⟨own, hown, hr⟩ := hreceives.forward fields hfields
    exact ⟨hdepth, r, own, merged, hplain, hr, (mergeEntries_associates hp hblock hlayer
      hassociates hown merged).mp ⟨early, hearly, hmerged⟩, rfl⟩
  · rintro ⟨-, u, own, merged, hu, hown, hmerged, rfl⟩
    rw [hplain] at hu
    cases hu
    obtain ⟨fields, hfields, hown⟩ := hreceives.backward own hown
    obtain ⟨early, hearly, hmerged⟩ := (mergeEntries_associates hp hblock hlayer hassociates hown
      merged).mpr hmerged
    refine ⟨early, hearly, (mergeOnto_entries_iff (hmixed early hearly)).mpr ⟨hdepth, ?_⟩⟩
    refine ⟨rest, fields, merged, ?_, hfields, hmerged, rfl⟩
    rw [directed_congr (fun _ => mergeEntries_get?_directive hearly) target]
    exact hrest

end Merge

end BundleConfig
