import BundleConfig.BuildType.Basic
import BundleConfig.Proofs.Merge.Associativity
import BundleConfig.Proofs.Merge.RootKeys

/-!
# Consolidated build types

A description is merged onto a *preset*, which has the name as its extension.  The name is
then written as its type, and all of it is merged onto the default description.

`consolidate_decodeAll` says what the build types read from the outcome are called and which
extension they have.  The extension is the one that stands in the preset after the description
was merged onto it, else the one of the default description (`Describes.extension`).  For a
mapping this is the extension it declares, or the name if it declares none and its directives
leave the preset.  A scalar takes the place of the preset, as in every merge, so it leaves the
extension to the default description.

The type and the extension are followed through each of the merges by `Merge.get?_of_plain`,
since what is merged in the last two is without directives.
-/

namespace BundleConfig

/-! ## Reading texts of a record -/

namespace Decode

variable {α : Type}

theorem text_eq_ok {v : Json} {t : String} : text v = .ok t ↔ v = .string t := by
  cases v <;> simp [text]

/-- A field that is a text is read from that text only. -/
theorem read_text_eq_ok {name : String} {put : String → α → α} {v : Json} {a b : α} :
    (field name text put).read v a = .ok b ↔ ∃ t, v = .string t ∧ put t a = b := by
  simp only [field, map_eq_ok, text_eq_ok]

/-- The fields that are texts, by their names and the ways to put them. -/
def textFields (writes : List (String × (String → α → α))) : List (Field α) :=
  writes.map fun w => field w.1 text w.2

/-- A part of a record that only the field of one key puts is the text that stands at the key, or
as before. -/
theorem fromEntries_textFields {writes : List (String × (String → α → α))} {key : String}
    {part : α → String} (hkey : ∃ w ∈ writes, w.1 = key)
    (hpart : ∀ w ∈ writes, ∀ t a, part (w.2 t a) = if w.1 = key then t else part a)
    {entries : List (String × Json)} (hn : (Table.keys entries).Nodup) {a b : α}
    (h : fromEntries (textFields writes) entries a = .ok b) :
    match Table.get? entries key with
    | some v => v = .string (part b)
    | none => part b = part a := by
  induction entries generalizing a with
  | nil =>
      cases h
      rfl
  | cons entry rest ih =>
      obtain ⟨k, v⟩ := entry
      obtain ⟨hnotin, hnodup⟩ := List.nodup_cons.mp hn
      rw [fromEntries] at h
      rw [Table.get?_cons]
      split at h
      next f hf =>
        obtain ⟨w, hw, rfl⟩ := List.mem_map.mp (List.mem_of_find?_eq_some hf)
        have hname : w.1 = k := by simpa only [field, beq_iff_eq] using List.find?_some hf
        obtain ⟨c, hc, h⟩ := bind_eq_ok.mp h
        obtain ⟨t, rfl, rfl⟩ := read_text_eq_ok.mp hc
        have hput := hpart w hw t a
        have hrest := ih hnodup h
        rw [hname] at hput
        by_cases hk : k = key
        · rw [Table.get?_eq_none_iff.mpr (hk ▸ hnotin)] at hrest
          rw [if_pos hk] at hput ⊢
          rw [hrest, hput]
        · rw [if_neg hk] at hput ⊢
          rw [← hput]
          exact hrest
      next hf =>
        have hk : k ≠ key := by
          obtain ⟨w, hw, hname⟩ := hkey
          rintro rfl
          have hfalse := List.find?_eq_none.mp hf _ (List.mem_map_of_mem hw)
          exact hfalse (beq_iff_eq.mpr hname)
        rw [if_neg hk]
        exact ih hnodup h

end Decode

/-! ## Merging a plain mapping, key by key -/

namespace Merge

variable {depth : Nat} {path : KeyPath} {target r : Json} {entries : List (String × Json)}
  {key : String}

/-- What a plain mapping leaves at a key, merged onto anything. -/
theorem get?_of_plain (hp : NoDirective entries) (hn : (Table.keys entries).Nodup)
    (h : mergeOnto depth path target (.object entries) = .ok r) (key : String) :
    match Table.get? entries key with
    | some v => ∃ new, r.get? key = some new ∧
        mergeOnto (depth + 1) (path.child (.key key)) ((target.get? key).getD .null) v = .ok new
    | none => r.get? key = target.get? key := by
  obtain ⟨merged, hmerged, rfl⟩ := mergeOnto_plainObject hp h
  have hfields : Table.get? (target.entries?.getD []) key = target.get? key := by
    cases target <;> rfl
  split
  next v hv =>
    rw [← hfields]
    exact mergeEntries_get?_of_some hp hn hmerged hv
  next hv =>
    rw [← hfields]
    exact mergeEntries_get?_of_none hp hmerged hv

theorem eq_some_of_getD {v? : Option Json} {text : String} (h : v?.getD .null = .string text) :
    v? = some (.string text) := by
  cases v? with
  | none => cases h
  | some v => exact congrArg some h

/-- A text that a mapping has at a key is written, whatever its directives leave. -/
theorem get?_of_string (hn : (Table.keys entries).Nodup) (hk : isDirective key = false)
    {text : String} (hkey : Table.get? entries key = some (.string text))
    (h : mergeOnto depth path target (.object entries) = .ok r) :
    r.get? key = some (.string text) := by
  obtain ⟨t, -, ⟨hall, -⟩ | ⟨-, fields, merged, -, hmerged, rfl⟩⟩ := mergeOnto_object h
  · have hdirective := List.all_eq_true.mp hall _ (Table.mem_of_get? hkey)
    rw [hk] at hdirective
    cases hdirective
  · have hmerge := mergeEntries_get? hk hn hmerged
    rw [hkey, mergeOver] at hmerge
    exact eq_some_of_getD (mergeOnto_scalar rfl rfl hmerge)

/-- At a key that a mapping does not have, the text that its directives leave stays. -/
theorem get?_of_directed (hn : (Table.keys entries).Nodup) (hk : isDirective key = false)
    (hkey : Table.get? entries key = none) {rest : Json} {text : String}
    (hdirected : directed depth path target entries = .ok rest)
    (hrest : rest.get? key = some (.string text))
    (h : mergeOnto depth path target (.object entries) = .ok r) :
    r.get? key = some (.string text) := by
  obtain ⟨t, ht, h⟩ := mergeOnto_object h
  cases ht.symm.trans hdirected
  have hobject : rest.isObject = true := by
    cases rest with
    | object fields => rfl
    | _ => cases hrest
  obtain ⟨-, rfl⟩ | ⟨-, fields, merged, hfields, hmerged, rfl⟩ := h
  · rw [hobject, Bool.not_true, Bool.and_false, if_neg Bool.false_ne_true]
    exact hrest
  · have hmerge := mergeEntries_get? hk hn hmerged
    have hold : Table.get? fields key = some (.string text) := by
      rw [mappingTarget_eq hfields]
      cases rest with
      | object old => exact hrest
      | _ => cases hobject
    rw [hkey, hold, mergeOver, Except.ok.injEq, Option.getD_some] at hmerge
    exact eq_some_of_getD hmerge.symm

theorem removeFrom_singleton {v : Json} {removals : List Json} (h : .string key ∉ removals) :
    removeFrom removals (.object [(key, v)]) = .object [(key, v)] := by
  rw [removeFrom]
  induction removals with
  | nil => rfl
  | cons removal rest ih =>
      obtain ⟨hne, hrest⟩ := not_or.mp (List.mem_cons.not.mp h)
      rw [List.foldl_cons]
      cases removal with
      | string other =>
          have hother : other ∉ Table.keys [(key, v)] := fun hmem =>
            hne (congrArg Json.string (List.mem_singleton.mp hmem).symm)
          dsimp only
          rw [Table.erase_of_not_mem hother]
          exact ih hrest
      | _ => exact ih hrest

/-- Nothing is added to a mapping. -/
theorem addTo_object {directive : String} {atStart : Bool} {fields : Table Json}
    {added : Option (Except ConfigError (List Json))}
    (h : addTo directive atStart path (.object fields) added = .ok r) : r = .object fields := by
  cases added with
  | none => exact (Except.ok.inj h).symm
  | some additions => cases h

/-- Directives that neither replace a mapping nor remove its only key leave it. -/
theorem directed_singleton {v rest : Json} (hreplace : Table.get? entries replaceKey = none)
    (hkeeps : Keeps entries key)
    (h : directed depth path (.object [(key, v)]) entries = .ok rest) :
    rest = .object [(key, v)] := by
  rw [directed, replacement_eq, hreplace] at h
  obtain ⟨replaced, hreplaced, h⟩ := bind_eq_ok.mp h
  cases hreplaced
  obtain ⟨prepended, hprepended, happended⟩ := bind_eq_ok.mp h
  rw [Option.getD_none] at hprepended
  have hsame : prepended = .object [(key, v)] := by
    cases hremovals : Table.get? entries removeKey with
    | none =>
        rw [hremovals] at hprepended
        exact addTo_object hprepended
    | some operand =>
        rw [hremovals] at hprepended
        dsimp only at hprepended
        rw [removeFrom_singleton (hkeeps operand hremovals)] at hprepended
        exact addTo_object hprepended
  subst hsame
  exact addTo_object happended

end Merge

namespace BuildType

open Merge (mergeLayer mergeOnto)

/-- The extension of the default description.  It is empty if there is none. -/
def defaultExtension (defaults : Json) : String :=
  ((defaults.get? "extension").bind Json.text?).getD ""

/-- The mapping that a description is merged onto. -/
def preset (name : String) : Json := .object [("extension", .string name)]

/-- What the build type of a name is called, and which extension it has. -/
structure Describes (defaults : Json) (name : String) (description : Json) (t : BuildType) :
    Prop where
  /-- It has its name. -/
  called : t.name = name
  /-- Its extension is what the description leaves in the preset, else the default one. -/
  extension : ∃ met, mergeLayer (preset name) description = .ok met ∧
    t.extension = ((met.get? "extension").bind Json.text?).getD (defaultExtension defaults)
  /-- An extension that the description declares is taken. -/
  declared : ∀ text, description.get? "extension" = some (.string text) → t.extension = text
  /-- Without one, a mapping whose directives leave the preset has its name as extension. -/
  undeclared : ∀ entries, description = .object entries →
    Table.get? entries "extension" = none → Table.get? entries Merge.replaceKey = none →
    Merge.Keeps entries "extension" → t.extension = name
  /-- What is no mapping leaves the extension to the default description. -/
  scalar : description.isObject = false → t.extension = defaultExtension defaults

/-! ## What is read from a consolidated description -/

section

variable {entries : List (String × Json)} {t : BuildType}

/-- The texts of a build type, by the keys they stand at. -/
def texts : List (String × (String → BuildType → BuildType)) :=
  [ ("type", fun text t => { t with name := text }),
    ("extension", fun text t => { t with extension := text }),
    ("outputExtension", fun text t => { t with outputExtension := text }),
    ("filePathPattern", fun text t => { t with pathPattern := text }) ]

theorem decode_object (entries : List (String × Json)) :
    decode (.object entries) = Decode.fromEntries (Decode.textFields texts) entries {} :=
  rfl

/-- The name of a build type stands at `type`. -/
theorem decode_name (hn : (Table.keys entries).Nodup) (h : decode (.object entries) = .ok t) :
    match Table.get? entries "type" with
    | some v => v = .string t.name
    | none => t.name = "" := by
  rw [decode_object] at h
  exact Decode.fromEntries_textFields ⟨_, List.mem_cons_self, rfl⟩ (by simp) hn h

/-- The extension of a build type stands at `extension`. -/
theorem decode_extension (hn : (Table.keys entries).Nodup)
    (h : decode (.object entries) = .ok t) :
    match Table.get? entries "extension" with
    | some v => v = .string t.extension
    | none => t.extension = "" := by
  rw [decode_object] at h
  exact Decode.fromEntries_textFields ⟨_, List.mem_cons_of_mem _ List.mem_cons_self, rfl⟩
    (by simp) hn h

end

/-! ## One description -/

theorem isDirective_type : Merge.isDirective "type" = false := by decide

theorem isDirective_extension : Merge.isDirective "extension" = false := by decide

section

variable {defaults description met specific complete : Json} {name : String} {t : BuildType}

/-- The three merges that make a description complete. -/
theorem completeOne_eq_ok (h : completeOne defaults name description = .ok complete) :
    ∃ met specific, mergeLayer (preset name) description = .ok met ∧
      mergeLayer met (.object [("type", .string name)]) = .ok specific ∧
      mergeLayer defaults specific = .ok complete := by
  obtain ⟨specific, hspecific, h⟩ := bind_eq_ok.mp h
  obtain ⟨met, hmet, hspecific⟩ := bind_eq_ok.mp hspecific
  obtain ⟨specific', hspecific, hsame⟩ := bind_eq_ok.mp hspecific
  cases hsame
  obtain ⟨complete', hcomplete, hsame⟩ := bind_eq_ok.mp h
  cases hsame
  exact ⟨met, specific, hmet, hspecific, hcomplete⟩

/-- What is merged onto the default description: a mapping without directives that has the
name as type and the extension that the description left. -/
structure Specific (name : String) (met specific : Json) : Prop where
  exists_entries : ∃ entries, specific = .object entries
  distinct : specific.Distinct
  directiveFree : Merge.DirectiveFree specific
  type_eq : specific.get? "type" = some (.string name)
  extension_eq : specific.get? "extension" = met.get? "extension"

theorem specific_of_mergeLayer (hmet : mergeLayer (preset name) description = .ok met)
    (h : mergeLayer met (.object [("type", .string name)]) = .ok specific) :
    Specific name met specific := by
  have hplain : Merge.NoDirective [("type", Json.string name)] :=
    List.forall_mem_singleton.mpr isDirective_type
  have hpreset : (preset name).Distinct :=
    Json.distinct_object.mpr ⟨List.nodup_singleton _, List.forall_mem_singleton.mpr trivial⟩
  have hfree : Merge.DirectiveFree (preset name) :=
    Merge.directiveFree_object.mpr
      (List.forall_mem_singleton.mpr ⟨isDirective_extension, List.forall_mem_nil _⟩)
  constructor
  · obtain ⟨merged, -, rfl⟩ := Merge.mergeOnto_plainObject hplain h
    exact ⟨merged, rfl⟩
  · exact Merge.mergeOnto_distinct _ (Merge.mergeOnto_distinct _ hpreset hmet) h
  · exact Merge.mergeOnto_directiveFree _ (Merge.mergeOnto_directiveFree _ hfree hmet) h
  · obtain ⟨new, hnew, hmerge⟩ := Merge.get?_of_plain hplain (List.nodup_singleton _) h "type"
    rw [hnew, Merge.mergeOnto_scalar rfl rfl hmerge]
  · exact Merge.get?_of_plain hplain (List.nodup_singleton _) h "extension"

/-- A text comes from a text only, where no directive is merged. -/
theorem eq_string_of_mergeOnto {depth : Nat} {path : KeyPath} {old v : Json} {text : String}
    (hfree : Merge.DirectiveFree v) (h : mergeOnto depth path old v = .ok (.string text)) :
    v = .string text := by
  cases v with
  | object entries =>
      obtain ⟨merged, -, hr⟩ := Merge.mergeOnto_plainObject hfree.noDirective h
      cases hr
  | array items =>
      obtain ⟨vs, -, hr⟩ := Merge.mergeOnto_array h
      cases hr
  | _ => exact (Merge.mergeOnto_scalar rfl rfl h).symm

/-- A text that is read at a key of a merged mapping is the text that the merged one has there,
else the one that was there before. -/
theorem text_of_merged {depth : Nat} {path : KeyPath} {target : Json}
    {entries fields : List (String × Json)} {key text : String}
    (hfree : Merge.DirectiveFree (.object entries)) (hn : (Table.keys entries).Nodup)
    (h : mergeOnto depth path target (.object entries) = .ok (.object fields))
    (hread : match Table.get? fields key with
      | some v => v = .string text
      | none => text = "") :
    text = ((Table.get? entries key).bind Json.text?).getD
      (((target.get? key).bind Json.text?).getD "") := by
  have hat := Merge.get?_of_plain hfree.noDirective hn h key
  cases hv : Table.get? entries key with
  | none =>
      rw [hv] at hat
      rw [show Table.get? fields key = _ from hat] at hread
      cases hold : target.get? key with
      | none =>
          rw [hold] at hread
          exact hread
      | some old =>
          rw [hold] at hread
          rw [hread]
          rfl
  | some v =>
      rw [hv] at hat
      obtain ⟨new, hnew, hmerge⟩ := hat
      rw [show Table.get? fields key = _ from hnew] at hread
      have hfree : Merge.DirectiveFree v :=
        (Merge.directiveFree_object.mp hfree _ (Table.mem_of_get? hv)).2
      rw [eq_string_of_mergeOnto hfree (hread ▸ hmerge)]
      rfl

/-- The build type read from a complete description has the name, and its extension is the one
that the description left, else the default one. -/
theorem read_of_specific (hdefaults : defaults.Distinct) (hspecific : Specific name met specific)
    (h : mergeLayer defaults specific = .ok complete) (ht : decode complete = .ok t) :
    t.name = name ∧
      t.extension = ((met.get? "extension").bind Json.text?).getD (defaultExtension defaults) := by
  obtain ⟨entries, rfl⟩ := hspecific.exists_entries
  have hfree := hspecific.directiveFree
  have hnodup : (Table.keys entries).Nodup := hspecific.distinct.1
  have hdistinct : complete.Distinct := Merge.mergeOnto_distinct _ hdefaults h
  obtain ⟨fields, -, rfl⟩ := Merge.mergeOnto_plainObject hfree.noDirective h
  constructor
  · have hname := text_of_merged hfree hnodup h (decode_name hdistinct.1 ht)
    rw [show Table.get? entries "type" = _ from hspecific.type_eq] at hname
    exact hname
  · rw [← hspecific.extension_eq]
    exact text_of_merged hfree hnodup h (decode_extension hdistinct.1 ht)

/-- What the build type of a completed description is called, and which extension it has. -/
theorem describes_of_completeOne (hdefaults : defaults.Distinct)
    (hdescription : description.Distinct)
    (h : completeOne defaults name description = .ok complete) (ht : decode complete = .ok t) :
    Describes defaults name description t := by
  obtain ⟨met, specific, hmet, hspecific, hcomplete⟩ := completeOne_eq_ok h
  obtain ⟨hname, hextension⟩ :=
    read_of_specific hdefaults (specific_of_mergeLayer hmet hspecific) hcomplete ht
  have htaken : ∀ text, met.get? "extension" = some (.string text) → t.extension = text := by
    intro text hmet
    rw [hextension, hmet]
    rfl
  constructor
  case called => exact hname
  case extension => exact ⟨met, hmet, hextension⟩
  case declared =>
    intro text htext
    cases description with
    | object entries =>
        exact htaken text (Merge.get?_of_string hdescription.1 isDirective_extension htext hmet)
    | _ => cases htext
  case undeclared =>
    rintro entries rfl hext hreplace hkeeps
    obtain ⟨rest, hrest, -⟩ := Merge.mergeOnto_object hmet
    have hrest : Merge.directed 0 [] (preset name) entries = .ok rest := hrest
    refine htaken name
      (Merge.get?_of_directed hdescription.1 isDirective_extension hext hrest ?_ hmet)
    rw [Merge.directed_singleton hreplace hkeeps hrest]
    rfl
  case scalar =>
    intro hobject
    have hnone : met.get? "extension" = none := by
      cases description with
      | object entries => cases hobject
      | array items =>
          obtain ⟨vs, -, rfl⟩ := Merge.mergeOnto_array hmet
          rfl
      | _ =>
          rw [Merge.mergeOnto_scalar rfl rfl hmet]
          rfl
    rw [hextension, hnone]
    rfl

end

/-! ## All descriptions -/

section

variable {descriptions complete : Table Json} {types : Table BuildType}

/-- The description that the others are merged onto. -/
def defaultOf (descriptions : Table Json) : Json :=
  (descriptions.get? defaultName).getD Json.emptyObject

theorem mem_erase_default (hn : descriptions.keys.Nodup) {entry : String × Json}
    (h : entry ∈ descriptions) (hne : entry.1 ≠ defaultName) :
    entry ∈ descriptions.erase defaultName := by
  rw [Table.erase_eq_filter hn]
  exact List.mem_filter.mpr ⟨h, bne_iff_ne.mpr hne⟩

/-- Completing and reading the descriptions keeps their names. -/
theorem keys_consolidate (h : consolidate descriptions = .ok complete) :
    complete.keys = (descriptions.erase defaultName).keys := by
  refine map_eq_map_of_mapM (fun entry result hresult => ?_) h
  obtain ⟨v, -, rfl⟩ := map_eq_ok.mp hresult
  rfl

theorem keys_decodeAll (h : decodeAll (.object complete) = .ok types) :
    types.keys = complete.keys := by
  have h := mapError_eq_ok.mp h
  refine map_eq_map_of_mapM (fun entry result hresult => ?_) h
  obtain ⟨v, -, rfl⟩ := map_eq_ok.mp hresult
  rfl

/-- Consolidated build types are named in the order of their descriptions, without the default
one.  Each of them is what `Describes` says of its description. -/
theorem consolidate_decodeAll (hd : (Json.object descriptions).Distinct)
    (hcomplete : consolidate descriptions = .ok complete)
    (htypes : decodeAll (.object complete) = .ok types) :
    complete.keys = descriptions.keys.filter (· != defaultName) ∧
      types.keys = descriptions.keys.filter (· != defaultName) ∧
      ∀ name description, (name, description) ∈ descriptions → name ≠ defaultName →
        ∃ t, types.get? name = some t ∧
          Describes (defaultOf descriptions) name description t := by
  have hnodup : descriptions.keys.Nodup := hd.1
  have hkeys : complete.keys = descriptions.keys.filter (· != defaultName) := by
    rw [keys_consolidate hcomplete, Table.erase_eq_filter hnodup, Table.keys, Table.keys,
      List.filter_map]
    rfl
  have htypesKeys := keys_decodeAll htypes
  refine ⟨hkeys, htypesKeys.trans hkeys, fun name description hmem hne => ?_⟩
  have hdefaults : (defaultOf descriptions).Distinct := by
    rw [defaultOf]
    cases hdefault : descriptions.get? defaultName with
    | none => exact Json.distinct_object.mpr ⟨List.nodup_nil, List.forall_mem_nil _⟩
    | some v => exact Json.Distinct.get? hd hdefault
  have hdescription : description.Distinct := (Json.distinct_object.mp hd).2 _ hmem
  obtain ⟨⟨_, v⟩, hv, hone⟩ := exists_of_mapM hcomplete (mem_erase_default hnodup hmem hne)
  obtain ⟨v', hone, hsame⟩ := map_eq_ok.mp hone
  cases hsame
  obtain ⟨⟨_, t⟩, ht, hread⟩ := exists_of_mapM (mapError_eq_ok.mp htypes) hv
  obtain ⟨t', hread, hsame⟩ := map_eq_ok.mp hread
  cases hsame
  have htypesNodup : types.keys.Nodup := by
    rw [htypesKeys, hkeys]
    exact hnodup.filter _
  exact ⟨t, (Table.get?_eq_some_iff htypesNodup).mpr ht,
    describes_of_completeOne hdefaults hdescription hone hread⟩

end

/-- Descriptions of every kind over a default one with an extension: one that declares its
extension, one that declares none, one that removes it, and one that is no mapping. -/
def mixedDescriptions : Table Json :=
  [("javaScript", .object [("extension", .string "js")]),
    ("default", .object [("extension", .string "txt"), ("outputExtension", .string "js")]),
    ("ts", .object [("outputExtension", .string "mjs")]),
    ("plain", .object [("__remove__", .array [.string "extension"])]),
    ("note", .null)]

/-- The descriptions of `mixedDescriptions`, made complete. -/
def mixedComplete : Table Json :=
  [("javaScript", .object [("extension", .string "js"), ("outputExtension", .string "js"),
      ("type", .string "javaScript")]),
    ("ts", .object [("extension", .string "ts"), ("outputExtension", .string "mjs"),
      ("type", .string "ts")]),
    ("plain", .object [("extension", .string "txt"), ("outputExtension", .string "js"),
      ("type", .string "plain")]),
    ("note", .object [("extension", .string "txt"), ("outputExtension", .string "js"),
      ("type", .string "note")])]

/-- The build types of `mixedDescriptions`. -/
def mixedTypes : Table BuildType :=
  [("javaScript", { name := "javaScript", extension := "js", outputExtension := "js" }),
    ("ts", { name := "ts", extension := "ts", outputExtension := "mjs" }),
    ("plain", { name := "plain", extension := "txt", outputExtension := "js" }),
    ("note", { name := "note", extension := "txt", outputExtension := "js" })]

/-- What the descriptions of `mixedDescriptions` say of their build types. -/
theorem consolidate_mixedDescriptions :
    (Json.object mixedDescriptions).Distinct ∧
      consolidate mixedDescriptions = .ok mixedComplete ∧
      decodeAll (.object mixedComplete) = .ok mixedTypes ∧
      mixedTypes.keys = ["javaScript", "ts", "plain", "note"] ∧
      ∀ name description, (name, description) ∈ mixedDescriptions → name ≠ defaultName →
        ∃ t, mixedTypes.get? name = some t ∧
          Describes (defaultOf mixedDescriptions) name description t := by
  have hd : (Json.object mixedDescriptions).Distinct := by decide
  have hcomplete : consolidate mixedDescriptions = .ok mixedComplete := by rfl
  have htypes : decodeAll (.object mixedComplete) = .ok mixedTypes := by rfl
  obtain ⟨-, hkeys, hdescribes⟩ := consolidate_decodeAll hd hcomplete htypes
  exact ⟨hd, hcomplete, htypes, hkeys.trans (by decide), hdescribes⟩

/-- A description that is `null` declares no extension, and its build type does not have the
name as one. -/
theorem consolidate_nullDescription :
    consolidate [("ts", .null)] =
        .ok [("ts", .object [("type", .string "ts")])] ∧
      decodeAll (.object [("ts", .object [("type", .string "ts")])]) =
        .ok [("ts", { name := "ts" })] ∧
      Json.null.get? "extension" = none ∧
      ({ name := "ts" } : BuildType).extension ≠ "ts" :=
  ⟨rfl, rfl, rfl, by decide⟩

end BuildType

end BundleConfig
