import BundleConfig.Merge.Comment
import BundleConfig.Proofs.Merge.Fits

/-!
# The merges inside a merge

A layer is merged node by node.  A `Site` is one such merge, of a node of the layer onto what
stands in its place.  Its *parts* are the merges it starts itself: of the items of an array and
of the operands of directives onto nothing, and of the entries of a mapping onto the values
that their keys have by then.

The merges that a run is made of are those `Within` the merge of each layer.  Each of them
succeeds if the run does (`mergeLayers_within`).

The values of comments are left out.  What is merged inside of them decides on nothing but the
comment.
-/

namespace BundleConfig

namespace Json

/-! ## Induction on trees -/

/-- A property holds of every scalar, and of an array or a mapping if it holds of the trees right
below. -/
structure Inductive (P : Json → Prop) : Prop where
  scalar : ∀ v, v.isObject = false → v.isArray = false → P v
  array : ∀ items, (∀ v ∈ items, P v) → P (.array items)
  object : ∀ entries, (∀ e ∈ entries, P e.2) → P (.object entries)

mutual

/-- Such a property holds of every tree. -/
theorem Inductive.holds {P : Json → Prop} (h : Inductive P) : ∀ v, P v
  | .null => h.scalar _ rfl rfl
  | .bool _ => h.scalar _ rfl rfl
  | .number _ => h.scalar _ rfl rfl
  | .string _ => h.scalar _ rfl rfl
  | .array items => h.array items (h.holdsOfItems items)
  | .object entries => h.object entries (h.holdsOfEntries entries)
termination_by structural v => v

theorem Inductive.holdsOfItems {P : Json → Prop} (h : Inductive P) :
    ∀ items : List Json, ∀ v ∈ items, P v
  | [] => List.forall_mem_nil _
  | v :: rest => List.forall_mem_cons.mpr ⟨h.holds v, h.holdsOfItems rest⟩
termination_by structural items => items

theorem Inductive.holdsOfEntries {P : Json → Prop} (h : Inductive P) :
    ∀ entries : List (String × Json), ∀ e ∈ entries, P e.2
  | [] => List.forall_mem_nil _
  | (_, v) :: rest => List.forall_mem_cons.mpr ⟨h.holds v, h.holdsOfEntries rest⟩
termination_by structural entries => entries

end

end Json

namespace Merge

/-! ## Sites -/

/-- A merge of a layer's node onto a target. -/
structure Site where
  /-- How deep the layer's node stands. -/
  depth : Nat
  /-- The path of the node in messages. -/
  path : KeyPath
  /-- What the node is merged onto. -/
  target : Json
  /-- The layer's node. -/
  layer : Json

/-- What the merge gives. -/
def Site.result (s : Site) : Except ConfigError Json := mergeOnto s.depth s.path s.target s.layer

/-- The merge gives a tree. -/
def Site.Succeeds (s : Site) : Prop := ∃ r, s.result = .ok r

/-- The merge of the entry with a key, for a merge of a mapping.  The directives left a mapping,
or what is none and has no items.  The entries before were merged into it. -/
inductive EntrySite : Site → String → Site → Prop
  | intro {depth : Nat} {path : KeyPath} {target rest v : Json} {fields now : Table Json}
      {entries before after : List (String × Json)} {key : String}
      (directives : directed depth path target entries = .ok rest)
      (mapping : mappingTarget path rest = .ok fields)
      (split : entries = before ++ (key, v) :: after) (ordinary : isDirective key = false)
      (earlier : mergeEntries (depth + 1) path fields before = .ok now) :
      EntrySite ⟨depth, path, target, .object entries⟩ key
        ⟨depth + 1, path.child (.key key), (now.get? key).getD .null, v⟩

theorem EntrySite.mem {s part : Site} {key : String} (h : EntrySite s key part) :
    ∃ entries, s.layer = .object entries ∧ (key, part.layer) ∈ entries := by
  cases h with
  | intro directives mapping split ordinary earlier =>
      refine ⟨_, rfl, ?_⟩
      rw [split]
      exact List.mem_append_right _ List.mem_cons_self

/-- A merge is started by another one, outside of comments. -/
inductive Part : Site → Site → Prop
  /-- An item of an array is merged onto nothing. -/
  | item {depth : Nat} {path : KeyPath} {target item : Json} {items : List Json} {i : Nat}
      (at_ : items[i]? = some item) :
      Part ⟨depth, path, target, .array items⟩
        ⟨depth + 1, path.child (.index i), .null, item⟩
  /-- The value that replaces the target is merged onto nothing. -/
  | replaced {depth : Nat} {path : KeyPath} {target v : Json} {entries : List (String × Json)}
      (operand : Table.get? entries replaceKey = some v) :
      Part ⟨depth, path, target, .object entries⟩ ⟨depth + 1, path, .null, v⟩
  /-- An item that is put before or after those of the target is merged onto nothing. -/
  | added {depth : Nat} {path : KeyPath} {target v item : Json} {entries : List (String × Json)}
      {directive : String} (adding : directive = prependKey ∨ directive = appendKey)
      (operand : Table.get? entries directive = some v) (listed : item ∈ operandItems v) :
      Part ⟨depth, path, target, .object entries⟩ ⟨depth + 1, path, .null, item⟩
  /-- An entry that is no comment. -/
  | entry {s part : Site} {key : String} (site : EntrySite s key part)
      (ordinary : key ≠ commentKey) : Part s part

/-- A merge is another one, or is started by one within it. -/
inductive Within (s : Site) : Site → Prop
  | self : Within s s
  | part {inner deeper : Site} (h : Within s inner) (hpart : Part inner deeper) : Within s deeper

/-- No merge within another one has the property. -/
def Clear (P : Site → Prop) (s : Site) : Prop := ∀ inner, Within s inner → ¬ P inner

/-- A merge with the property is within the merge of one of the layers. -/
inductive Occurs (P : Site → Prop) : Json → List Json → Prop
  | here {target layer : Json} {layers : List Json} {s : Site}
      (h : Within ⟨0, [], target, layer⟩ s) (hs : P s) : Occurs P target (layer :: layers)
  | later {target layer next : Json} {layers : List Json} (h : mergeLayer target layer = .ok next)
      (hrest : Occurs P next layers) : Occurs P target (layer :: layers)

theorem Within.trans {s t u : Site} (hst : Within s t) (htu : Within t u) : Within s u := by
  induction htu with
  | self => exact hst
  | part _ hpart ih => exact .part ih hpart

variable {P : Site → Prop}

theorem Clear.not_self {s : Site} (h : Clear P s) : ¬ P s := h s .self

theorem Clear.part {s part : Site} (h : Clear P s) (hpart : Part s part) : Clear P part :=
  fun inner hinner => h inner ((Within.part .self hpart).trans hinner)

/-- What goes over to parts goes over to everything within. -/
theorem Within.preserves {Q : Site → Prop} (hQ : ∀ s part, Q s → Part s part → Q part)
    {s inner : Site} (h : Within s inner) (hs : Q s) : Q inner := by
  induction h with
  | self => exact hs
  | part _ hpart ih => exact hQ _ _ ih hpart

theorem not_occurs_cons {target layer : Json} {layers : List Json}
    (h : ¬ Occurs P target (layer :: layers)) :
    Clear P ⟨0, [], target, layer⟩ ∧
      ∀ next, mergeLayer target layer = .ok next → ¬ Occurs P next layers :=
  ⟨fun _ hwithin hP => h (.here hwithin hP), fun _ hnext hrest => h (.later hnext hrest)⟩

/-! ## Merging mappings in steps -/

variable {depth : Nat} {path : KeyPath}

theorem mergeEntries_append (fields : Table Json) (entries others : List (String × Json)) :
    mergeEntries depth path fields (entries ++ others) =
      mergeEntries depth path fields entries >>= fun now => mergeEntries depth path now others := by
  induction entries generalizing fields with
  | nil => rfl
  | cons entry rest ih =>
      obtain ⟨key, v⟩ := entry
      rw [List.cons_append]
      cases hk : isDirective key with
      | true =>
          rw [mergeEntries_directive hk, mergeEntries_directive hk]
          exact ih fields
      | false =>
          rw [mergeEntries_cons hk, mergeEntries_cons hk]
          cases mergeOnto depth (path.child (.key key)) ((fields.get? key).getD .null) v with
          | error e => rfl
          | ok new => exact ih (fields.insert key new)

/-- What a mapping becomes after its directives. -/
def finished (depth : Nat) (path : KeyPath) (entries : List (String × Json)) (rest : Json) :
    Except ConfigError Json :=
  if entries.all fun entry => isDirective entry.1 then
    .ok (if entries.isEmpty && !rest.isObject then Json.emptyObject else rest)
  else do
    let fields ← mappingTarget path rest
    let merged ← mergeEntries (depth + 1) path fields entries
    pure (.object merged)

theorem mergeOnto_object_eq (target : Json) (entries : List (String × Json)) :
    mergeOnto depth path target (.object entries) =
      if depth > maxLevels then .error (.cyclic (.nesting maxLevels path))
      else directed depth path target entries >>= finished depth path entries := by
  rw [mergeOnto]
  rfl

theorem mergeOnto_array_iff {target r : Json} {items : List Json} :
    mergeOnto depth path target (.array items) = .ok r ↔
      depth ≤ maxLevels ∧ ¬ Full target ∧
        ∃ vs, cleanItems (depth + 1) path 0 items = .ok vs ∧ r = .array vs := by
  constructor
  · intro h
    exact ⟨mergeOnto_depth h, not_full_of_array h, mergeOnto_array h⟩
  · rintro ⟨hdepth, hfull, vs, hvs, rfl⟩
    have hnull : ¬ Full .null := id
    rw [mergeOnto_array_congr hfull hnull]
    unfold mergeOnto
    rw [if_neg (by omega)]
    exact map_eq_ok.mpr ⟨vs, hvs, rfl⟩

/-! ## Parts succeed -/

theorem cleanItems_succeeds {items vs : List Json} {position i : Nat} {item : Json}
    (h : cleanItems depth path position items = .ok vs) (hi : items[i]? = some item) :
    ∃ r, mergeOnto depth (path.child (.index (position + i))) .null item = .ok r := by
  induction items generalizing position i vs with
  | nil => cases hi
  | cons first rest ih =>
      obtain ⟨v, others, hv, hothers, rfl⟩ := cleanItems_cons h
      cases i with
      | zero =>
          cases hi
          exact ⟨v, hv⟩
      | succ i =>
          have hrest := ih hothers hi
          rwa [Nat.add_assoc, Nat.add_comm 1 i] at hrest

theorem cleanAdditions_succeeds {items vs : List Json} {item : Json}
    (h : cleanAdditions depth path items = .ok vs) (hitem : item ∈ items) :
    ∃ r, mergeOnto depth path .null item = .ok r := by
  induction items generalizing vs with
  | nil => cases hitem
  | cons first rest ih =>
      obtain ⟨v, others, hv, hothers, rfl⟩ := cleanAdditions_cons h
      obtain rfl | hitem := List.mem_cons.mp hitem
      · exact ⟨v, hv⟩
      · exact ih hothers hitem

theorem addedBy_succeeds {operand item : Json} {vs : List Json}
    (h : addedBy depth path operand = .ok vs) (hitem : item ∈ operandItems operand) :
    ∃ r, mergeOnto depth path .null item = .ok r := by
  cases operand with
  | array items => exact cleanAdditions_succeeds h hitem
  | _ =>
      obtain ⟨v, hv, -⟩ := map_eq_ok.mp h
      cases List.mem_singleton.mp hitem
      exact ⟨v, hv⟩

theorem addTo_succeeds {directive : String} {atStart : Bool} {target r : Json}
    {added : Except ConfigError (List Json)}
    (h : addTo directive atStart path target (some added) = .ok r) :
    ∃ items, added = .ok items := by
  cases target with
  | null =>
      obtain ⟨items, hitems, -⟩ := map_eq_ok.mp h
      exact ⟨items, hitems⟩
  | array old =>
      obtain ⟨items, hitems, -⟩ := map_eq_ok.mp h
      exact ⟨items, hitems⟩
  | _ => cases h

/-- The operands of directives that leave something succeed. -/
theorem directed_succeeds {target rest : Json} {entries : List (String × Json)}
    (h : directed depth path target entries = .ok rest) :
    (∃ o, replacement (depth + 1) path entries = .ok o) ∧
      ∀ directive, directive = prependKey ∨ directive = appendKey → ∀ operand,
        Table.get? entries directive = some operand →
          ∃ items, addedBy (depth + 1) path operand = .ok items := by
  obtain ⟨o, ho, h⟩ := bind_eq_ok.mp h
  obtain ⟨prepended, hprepended, happended⟩ := bind_eq_ok.mp h
  refine ⟨⟨o, ho⟩, ?_⟩
  rintro directive (rfl | rfl) operand hoperand
  · rw [additions_eq, hoperand] at hprepended
    exact addTo_succeeds hprepended
  · rw [additions_eq, hoperand] at happended
    exact addTo_succeeds happended

theorem EntrySite.succeeds {s part : Site} {key : String} (h : EntrySite s key part)
    (hs : s.Succeeds) : part.Succeeds := by
  obtain ⟨r, hr⟩ := hs
  cases h with
  | @intro depth path target rest v fields now _ before after _ directives mapping split ordinary
      earlier =>
      subst split
      have hall : ((before ++ (key, v) :: after).all fun e => isDirective e.1) = false := by
        simp [ordinary]
      obtain ⟨-, rest', fields', merged, hrest', hfields', hmerged, -⟩ :=
        (mergeOnto_entries_iff hall).mp hr
      rw [directives] at hrest'
      cases hrest'
      rw [mapping] at hfields'
      cases hfields'
      rw [mergeEntries_append, earlier] at hmerged
      obtain ⟨new, hnew, -⟩ := mergeEntries_entry ordinary hmerged
      exact ⟨new, hnew⟩

/-- A part succeeds if the merge that starts it does. -/
theorem Part.succeeds {s part : Site} (h : Part s part) (hs : s.Succeeds) : part.Succeeds := by
  cases h with
  | item hi =>
      obtain ⟨r, hr⟩ := hs
      obtain ⟨-, -, vs, hvs, -⟩ := mergeOnto_array_iff.mp hr
      have hsite := cleanItems_succeeds hvs hi
      rwa [Nat.zero_add] at hsite
  | replaced operand =>
      obtain ⟨r, hr⟩ := hs
      obtain ⟨rest, hrest, -⟩ := mergeOnto_object hr
      obtain ⟨⟨o, ho⟩, -⟩ := directed_succeeds hrest
      rw [replacement_eq, operand] at ho
      obtain ⟨v, hv, -⟩ := map_eq_ok.mp ho
      exact ⟨v, hv⟩
  | added adding operand listed =>
      obtain ⟨r, hr⟩ := hs
      obtain ⟨rest, hrest, -⟩ := mergeOnto_object hr
      obtain ⟨items, hitems⟩ := (directed_succeeds hrest).2 _ adding _ operand
      exact addedBy_succeeds hitems listed
  | entry site ordinary => exact site.succeeds hs

theorem Within.succeeds {s inner : Site} (h : Within s inner) (hs : s.Succeeds) :
    inner.Succeeds :=
  h.preserves (fun _ _ hs hpart => hpart.succeeds hs) hs

/-- What makes a merge fail does not occur in a run that succeeds. -/
theorem not_occurs_of_mergeLayers (hP : ∀ s, P s → ¬ s.Succeeds) {target r : Json}
    {layers : List Json} (h : mergeLayers target layers = .ok r) : ¬ Occurs P target layers := by
  intro hoccurs
  induction hoccurs with
  | here hwithin hs =>
      obtain ⟨next, hnext, -⟩ := bind_eq_ok.mp h
      exact hP _ hs (hwithin.succeeds ⟨next, hnext⟩)
  | later hnext _ ih =>
      obtain ⟨next, hnext', h⟩ := bind_eq_ok.mp h
      rw [hnext] at hnext'
      cases hnext'
      exact ih h

end Merge

end BundleConfig
