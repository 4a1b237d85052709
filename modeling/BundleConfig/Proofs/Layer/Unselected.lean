import BundleConfig.Configuration.Compose
import BundleConfig.Proofs.Layer.TaskBlocks
import BundleConfig.Proofs.Merge.Inversion
import Mathlib.Data.List.Forall2

/-!
# Blocks that are not selected

A manifest may hold the blocks of tasks that are not asked for.  Two manifests that differ
in such blocks only give the same settings, the same layers and the same fault.

The selected blocks are merged into a mapping that still holds the others, and they may
replace it, take keys away and change what is below its keys.  So it takes a relation that
every step of a merge keeps: the two mappings have the same keys in the same order, and the
same values but for the blocks that differ (`AgreeApart`).  A merge does not look at these
as long as its layer does not name them.  When the blocks are dropped nothing is left to
tell the two apart.
-/

namespace BundleConfig

/-! ## Two targets of one merge -/

namespace Merge

/-- Two entries agree, or both are mappings under an idle key. -/
def AgreeAt (idle : String → Prop) (e e' : String × Json) : Prop :=
  e.1 = e'.1 ∧ (e.2 = e'.2 ∨ idle e.1 ∧ e.2.isObject = true ∧ e'.2.isObject = true)

/-- Two tables with distinct keys agree, apart from the mappings under idle keys. -/
structure TablesAgree (idle : String → Prop) (fields fields' : Table Json) : Prop where
  distinct : fields.keys.Nodup
  entries : List.Forall₂ (AgreeAt idle) fields fields'

/-- Two trees are equal, or they are mappings that agree apart from idle keys. -/
inductive AgreeApart (idle : String → Prop) : Json → Json → Prop
  | same (v : Json) : AgreeApart idle v v
  | mappings {fields fields' : Table Json} (h : TablesAgree idle fields fields') :
      AgreeApart idle (.object fields) (.object fields')

section

variable {idle : String → Prop} {fields fields' : Table Json} {v w : Json}

/-- A key that is not idle has the same value in both. -/
theorem TablesAgree.get?_eq (h : TablesAgree idle fields fields') {key : String}
    (hkey : ¬ idle key) : fields.get? key = fields'.get? key := by
  obtain ⟨-, hentries⟩ := h
  induction hentries with
  | nil => rfl
  | @cons e e' rest rest' hagree _ ih =>
      obtain ⟨k, v⟩ := e
      obtain ⟨k', v'⟩ := e'
      obtain ⟨rfl, hvalues⟩ := hagree
      dsimp only at hvalues
      simp only [Table.get?_cons, ih]
      by_cases hk : k = key
      · subst hk
        rcases hvalues with hvalue | ⟨hidle, -⟩
        · rw [if_pos rfl, if_pos rfl, hvalue]
        · exact absurd hidle hkey
      · rw [if_neg hk, if_neg hk]

theorem TablesAgree.keys_eq (h : TablesAgree idle fields fields') :
    fields.keys = fields'.keys := by
  obtain ⟨-, hentries⟩ := h
  induction hentries with
  | nil => rfl
  | cons hagree _ ih =>
      simp only [Table.keys, List.map_cons, hagree.1]
      exact congrArg _ ih

theorem TablesAgree.insert (h : TablesAgree idle fields fields') (key : String) (v : Json) :
    TablesAgree idle (fields.insert key v) (fields'.insert key v) := by
  obtain ⟨hdistinct, hentries⟩ := h
  refine ⟨Table.keys_insert_nodup hdistinct key v, ?_⟩
  clear hdistinct
  induction hentries with
  | nil => exact .cons ⟨rfl, .inl rfl⟩ .nil
  | @cons e e' rest rest' hagree hrest ih =>
      obtain ⟨k, w⟩ := e
      obtain ⟨k', w'⟩ := e'
      obtain ⟨rfl, hvalues⟩ := hagree
      rw [Table.insert, Table.insert]
      by_cases hk : k = key
      · rw [if_pos hk, if_pos hk]
        exact .cons ⟨rfl, .inl rfl⟩ hrest
      · rw [if_neg hk, if_neg hk]
        exact .cons ⟨rfl, hvalues⟩ ih

theorem TablesAgree.erase (h : TablesAgree idle fields fields') (key : String) :
    TablesAgree idle (fields.erase key) (fields'.erase key) := by
  obtain ⟨hdistinct, hentries⟩ := h
  refine ⟨((Table.erase_sublist fields key).map _).nodup hdistinct, ?_⟩
  clear hdistinct
  induction hentries with
  | nil => exact .nil
  | @cons e e' rest rest' hagree hrest ih =>
      obtain ⟨k, w⟩ := e
      obtain ⟨k', w'⟩ := e'
      obtain ⟨rfl, hvalues⟩ := hagree
      rw [Table.erase, Table.erase]
      by_cases hk : k = key
      · rw [if_pos hk, if_pos hk]
        exact hrest
      · rw [if_neg hk, if_neg hk]
        exact .cons ⟨rfl, hvalues⟩ ih

/-! ## One merge -/

variable {depth : Nat} {path : KeyPath} {entries : List (String × Json)}

theorem removeFrom_agree (removals : List Json) (h : AgreeApart idle v w) :
    AgreeApart idle (removeFrom removals v) (removeFrom removals w) := by
  cases h with
  | same => exact .same _
  | @mappings fields fields' h =>
      apply AgreeApart.mappings
      induction removals generalizing fields fields' with
      | nil => exact h
      | cons removal rest ih =>
          rw [List.foldl_cons, List.foldl_cons]
          apply ih
          cases removal with
          | string key => exact h.erase key
          | _ => exact h

theorem addTo_agree (directive : String) (atStart : Bool)
    (added : Option (Except ConfigError (List Json))) (h : AgreeApart idle v w) :
    GoAlike (AgreeApart idle) (addTo directive atStart path v added)
      (addTo directive atStart path w added) := by
  cases h with
  | same => exact .of_eq .same rfl
  | mappings h =>
      cases added with
      | none => exact .done (.mappings h)
      | some result => exact .failed _

theorem applyDirectives_agree (replaced : Except ConfigError (Option Json))
    (removals : Option Json) (prepended appended : Option (Except ConfigError (List Json)))
    (h : AgreeApart idle v w) :
    GoAlike (AgreeApart idle) (applyDirectives path v replaced removals prepended appended)
      (applyDirectives path w replaced removals prepended appended) := by
  refine GoAlike.bind (R := Eq) (.of_eq (fun _ => rfl) rfl) ?_
  rintro new _ rfl
  have hreplaced : AgreeApart idle (new.getD v) (new.getD w) := by
    cases new with
    | none => exact h
    | some u => exact .same u
  refine GoAlike.bind (addTo_agree _ _ _ ?_) fun a b hab => addTo_agree _ _ _ hab
  cases removals with
  | none => exact hreplaced
  | some operand => exact removeFrom_agree _ hreplaced

/-- Entries without idle keys are merged alike. -/
theorem mergeEntries_agree (hentries : ∀ e ∈ entries, isDirective e.1 = false → ¬ idle e.1)
    (h : TablesAgree idle fields fields') :
    GoAlike (TablesAgree idle) (mergeEntries depth path fields entries)
      (mergeEntries depth path fields' entries) := by
  induction entries generalizing fields fields' with
  | nil => exact .done h
  | cons entry rest ih =>
      obtain ⟨key, v⟩ := entry
      obtain ⟨hkey, hrest⟩ := List.forall_mem_cons.mp hentries
      cases hdirective : isDirective key with
      | true =>
          rw [mergeEntries_directive hdirective, mergeEntries_directive hdirective]
          exact ih hrest h
      | false =>
          rw [mergeEntries_cons hdirective, mergeEntries_cons hdirective,
            h.get?_eq (hkey hdirective)]
          refine GoAlike.bind (R := Eq) (.of_eq (fun _ => rfl) rfl) ?_
          rintro new _ rfl
          exact ih hrest (h.insert key new)

/-- A mapping without idle keys is merged alike onto trees that agree apart from these. -/
theorem mergeOnto_agree (hentries : ∀ e ∈ entries, isDirective e.1 = false → ¬ idle e.1)
    (h : AgreeApart idle v w) :
    GoAlike (AgreeApart idle) (mergeOnto depth path v (.object entries))
      (mergeOnto depth path w (.object entries)) := by
  rw [mergeOnto, mergeOnto]
  split
  · exact .failed _
  refine GoAlike.bind (applyDirectives_agree _ _ _ _ h) ?_
  intro t u htu
  cases htu with
  | same => exact .of_eq .same rfl
  | mappings htu =>
      split
      · rw [if_neg (by simp [Json.isObject, Json.entries?]),
          if_neg (by simp [Json.isObject, Json.entries?])]
        exact .done (AgreeApart.mappings htu)
      · refine GoAlike.bind (R := TablesAgree idle) (.done htu) ?_
        intro fields fields' hfields
        refine GoAlike.bind (mergeEntries_agree hentries hfields) ?_
        intro merged merged' hmerged
        exact .done (AgreeApart.mappings hmerged)

end

end Merge

/-! ## Manifests -/

namespace Layer

/-- A task that may have a block and whose block is no layer. -/
def Idle (task : Option String) (debug : Bool) (name : String) : Prop :=
  name ∈ taskNames ∧ selectsTask task debug name = false

variable {task : Option String} {debug : Bool} {block block' : Json}

/-- When their blocks are dropped, trees that agree apart from idle blocks are equal. -/
theorem dropTaskBlocks_eq (h : Merge.AgreeApart (Idle task debug) block block') :
    dropTaskBlocks block = dropTaskBlocks block' := by
  cases h with
  | same => rfl
  | @mappings fields fields' h =>
      rw [dropTaskBlocks_object h.distinct, dropTaskBlocks_object (h.keys_eq ▸ h.distinct)]
      obtain ⟨-, hentries⟩ := h
      apply congrArg Json.object
      induction hentries with
      | nil => rfl
      | @cons e e' rest rest' hagree _ ih =>
          obtain ⟨key, v⟩ := e
          obtain ⟨key', v'⟩ := e'
          obtain ⟨rfl, hvalues⟩ := hagree
          rw [List.filter_cons, List.filter_cons, ih]
          rcases hvalues with hvalue | ⟨hidle, hv, hv'⟩
          · dsimp only at hvalue
            rw [hvalue]
          · have htask : taskNames.contains key = true := List.contains_iff_mem.mpr hidle.1
            dsimp only at hv hv'
            simp only [isBlockOf, hv, hv', htask, Bool.and_self, Bool.not_true,
              Bool.false_eq_true, if_false]

/-- Trees that agree apart from idle blocks have the same layers. -/
theorem ofTask_eq (h : Merge.AgreeApart (Idle task debug) block block') :
    ofTask block task debug = ofTask block' task debug := by
  cases h with
  | same => rfl
  | @mappings fields fields' h =>
      have hget : ∀ name, selectsTask task debug name = true →
          (Json.object fields).get? name = (Json.object fields').get? name := by
        intro name hselected
        apply h.get?_eq
        rintro ⟨-, hidle⟩
        rw [hselected] at hidle
        cases hidle
      unfold ofTask
      apply List.filterMap_congr
      intro name hname
      rw [hget name (List.mem_filter.mp hname).2]

end Layer

namespace Composition

variable {task : Option String} {debug : Bool} {block block' : Json}

/-- Compositions of the same layers whose trees agree. -/
structure Agree (task : Option String) (debug : Bool) (c c' : Composition) : Prop where
  trees : Merge.AgreeApart (Layer.Idle task debug) c.tree c'.tree
  layers : c.layers = c'.layers

/-- The selected blocks are merged alike. -/
theorem addAll_agree {c c' : Composition} {layers : List Layer}
    (hlayers : ∀ l ∈ layers, ∃ entries : Table Json, l.tree = .object entries ∧
      ∀ e ∈ entries, ¬ Layer.Idle task debug e.1)
    (h : Agree task debug c c') :
    GoAlike (Agree task debug) (c.addAll layers) (c'.addAll layers) := by
  induction layers generalizing c c' with
  | nil => exact .done h
  | cons l rest ih =>
      obtain ⟨⟨entries, htree, hentries⟩, hrest⟩ := List.forall_mem_cons.mp hlayers
      obtain ⟨htrees, happlied⟩ := h
      refine GoAlike.bind (R := Agree task debug) ?_ fun d d' hd => ih hrest hd
      have hmerged : GoAlike (Merge.AgreeApart (Layer.Idle task debug)) (l.mergedOnto c.tree)
          (l.mergedOnto c'.tree) := by
        rw [Layer.mergedOnto, Layer.mergedOnto, htree]
        exact Merge.mergeOnto_agree (fun e he _ => hentries e he) htrees
      refine GoAlike.bind hmerged ?_
      intro v w hvw
      exact .done ⟨hvw, by rw [happlied]⟩

/-- A selected block without task names at its top has no idle key. -/
theorem not_idle_of_ofTask {entries : Table Json} {l : Layer}
    (hl : l ∈ manifestTaskLayers (.object entries) task debug)
    (hblocks : ∀ l ∈ Layer.ofTask (.object entries) task debug, ∀ name ∈ Layer.taskNames,
      l.tree.get? name = none) :
    ∃ fields : Table Json, l.tree = .object fields ∧
      ∀ e ∈ fields, ¬ Layer.Idle task debug e.1 := by
  obtain ⟨l₀, hl₀, rfl⟩ := List.mem_map.mp hl
  have hnone := hblocks l₀ hl₀
  obtain ⟨name, -, hblock⟩ := List.mem_filterMap.mp hl₀
  split at hblock
  next fields _ =>
    cases hblock
    refine ⟨fields, rfl, ?_⟩
    rintro e he ⟨htask, -⟩
    exact Table.get?_eq_none_iff.mp (hnone e.1 htask) (List.mem_map_of_mem he)
  next => cases hblock

/-- Manifests that differ in blocks that are not selected only, give the same settings
and the same layers, or the same fault, unless a selected block names a task itself. -/
theorem withManifestTasks_unselected {entries entries' : Table Json}
    (hdistinct : entries.keys.Nodup)
    (hagree : List.Forall₂ (Merge.AgreeAt (Layer.Idle task debug)) entries entries')
    (hblocks : ∀ l ∈ Layer.ofTask (.object entries) task debug, ∀ name ∈ Layer.taskNames,
      l.tree.get? name = none) (layers : List (LayerOrigin × String)) :
    withManifestTasks (.object entries) task debug layers =
      withManifestTasks (.object entries') task debug layers := by
  have htrees : Merge.AgreeApart (Layer.Idle task debug) (.object entries) (.object entries') :=
    .mappings ⟨hdistinct, hagree⟩
  have hlayers : manifestTaskLayers (.object entries') task debug =
      manifestTaskLayers (.object entries) task debug := by
    rw [manifestTaskLayers, manifestTaskLayers, Layer.ofTask_eq htrees]
  have hadded : GoAlike (Agree task debug)
      (addAll ⟨.object entries, layers⟩ (manifestTaskLayers (.object entries) task debug))
      (addAll ⟨.object entries', layers⟩ (manifestTaskLayers (.object entries) task debug)) :=
    addAll_agree (fun l hl => not_idle_of_ofTask hl hblocks) ⟨htrees, rfl⟩
  unfold withManifestTasks
  rw [hlayers]
  apply hadded.bind_eq
  rintro c c' ⟨htree, happlied⟩
  rw [dropTaskBlocks, dropTaskBlocks, Layer.dropTaskBlocks_eq htree, happlied]

/-- The settings of a server, with a block of its tests.  The block of the server takes a
key away. -/
def serverWithTests (tests : Table Json) : Table Json :=
  [("host", .string "localhost"), ("test", .object tests),
    ("serve", .object [("__remove__", .array [.string "host"]), ("open", .bool true)])]

/-- Whatever the tests ask for, the server is the same. -/
theorem withManifestTasks_serverWithTests :
    withManifestTasks (.object (serverWithTests [("open", .null)])) (some "serve") false [] =
        .ok ⟨.object [("open", .bool true)], [(.task, "manifest:serve")]⟩ ∧
      withManifestTasks (.object (serverWithTests [("open", .null)])) (some "serve") false [] =
        withManifestTasks (.object (serverWithTests [("debug", .object [])])) (some "serve")
          false [] := by
  refine ⟨by rfl, withManifestTasks_unselected (by decide) ?_ ?_ []⟩
  · have hidle : Layer.Idle (some "serve") false "test" := by
      constructor <;> decide
    exact .cons ⟨rfl, .inl rfl⟩ (.cons ⟨rfl, .inr ⟨hidle, rfl, rfl⟩⟩ (.cons ⟨rfl, .inl rfl⟩ .nil))
  · intro l hl
    obtain rfl := List.mem_singleton.mp hl
    decide

end Composition

end BundleConfig
