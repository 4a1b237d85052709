import BundleConfig.Configuration.Compose
import BundleConfig.Proofs.Layer.TaskBlocks
import BundleConfig.Proofs.Merge.Fits

/-!
# Blocks of a manifest

The selected blocks of a manifest are merged onto its own settings, and what comes out is
merged onto the composed tree.  That is the same as merging the settings and then the blocks
onto the tree, if every block fits the settings it is merged onto (`BlockFits`).

A block that does not fit acts on the manifest and not on the tree.  An added item is added to
what the manifest has, and a key is taken away from there.  A setting that is merged into a
null of the manifest does not undo what the null takes from the tree.

The blocks of all tasks are dropped after the selected ones were merged.  So a block must not
bring in one, and must not write where the manifest has one.
-/

namespace BundleConfig

namespace Layer

/-- Whether an entry is left when the blocks of the tasks are dropped. -/
def isKept (e : String × Json) : Bool := !isBlockOf taskNames e

theorem isKept_of {key : String} {v : Json} (h : key ∈ taskNames → v.isObject = false) :
    isKept (key, v) = true := by
  by_cases hkey : key ∈ taskNames
  · simp [isKept, isBlockOf, h hkey]
  · simp [isKept, isBlockOf, hkey]

theorem dropTaskBlocks_filter {fields : Table Json} (h : fields.keys.Nodup) :
    dropTaskBlocks (.object fields) = .object (fields.filter isKept) :=
  dropTaskBlocks_object h

/-- A block can be merged onto settings before these are merged onto a tree. -/
structure BlockFits (settings block : Table Json) : Prop where
  /-- It has no directive of its own. -/
  plain : Merge.NoDirective block
  /-- It brings in no block of a task and meets none. -/
  names : ∀ e ∈ block, e.1 ∈ taskNames →
    e.2.isObject = false ∧ ∀ v, settings.get? e.1 = some v → v.isObject = false
  /-- Its entries fit. -/
  entries : ∀ e ∈ block, Merge.Fits (settings.get? e.1) e.2

variable {settings block : Table Json} {depth : Nat} {path : KeyPath}

/-- Dropping the blocks and merging a block that fits can be swapped. -/
theorem mergeEntries_isKept (hp : Merge.NoDirective block)
    (hnames : ∀ e ∈ block, e.1 ∈ taskNames →
      e.2.isObject = false ∧ ∀ v, settings.get? e.1 = some v → v.isObject = false) :
    Merge.mergeEntries depth path (settings.filter isKept) block =
      (Merge.mergeEntries depth path settings block).map (·.filter isKept) := by
  induction block generalizing settings with
  | nil => rfl
  | cons entry rest ih =>
      obtain ⟨key, v⟩ := entry
      obtain ⟨hk, hp⟩ := Merge.noDirective_cons.mp hp
      obtain ⟨hname, hnames⟩ := List.forall_mem_cons.mp hnames
      have hold : ∀ w, settings.get? key = some w → isKept (key, w) = true := by
        intro w hw
        exact isKept_of fun hkey => (hname hkey).2 w hw
      rw [Merge.mergeEntries_cons hk, Merge.mergeEntries_cons hk, Table.get?_filter hold]
      cases hnew : Merge.mergeOnto depth (path.child (.key key)) ((settings.get? key).getD .null)
          v with
      | error e => rfl
      | ok new =>
          have hobject : key ∈ taskNames → new.isObject = false :=
            fun hkey => Merge.isObject_of_mergeOnto (hname hkey).1 hnew
          have hkept : isKept (key, new) = true := isKept_of hobject
          show Merge.mergeEntries depth path (Table.insert (settings.filter isKept) key new) rest =
            (Merge.mergeEntries depth path (settings.insert key new) rest).map (·.filter isKept)
          rw [← Table.filter_insert hold hkept]
          refine ih hp fun e he htask => ⟨(hnames e he htask).1, ?_⟩
          intro w hw
          by_cases hsame : e.1 = key
          · rw [hsame, Table.get?_insert_self] at hw
            cases hw
            exact hobject (hsame ▸ htask)
          · rw [Table.get?_insert_of_ne settings new hsame] at hw
            exact (hnames e he htask).2 w hw

theorem mergeLayer_empty_iff {fields : Table Json} {result : Json} :
    Merge.mergeLayer (.object fields) (.object []) = .ok result ↔ .object fields = result := by
  unfold Merge.mergeLayer
  refine Merge.mergeOnto_emptyObject.trans ⟨?_, ?_⟩
  · rintro ⟨-, rfl⟩
    rfl
  · rintro rfl
    exact ⟨Nat.zero_le _, rfl⟩

/-- One block that fits may be merged onto the settings or, after them, onto the tree. -/
theorem mergeLayer_dropTaskBlocks {target r : Table Json}
    (hsettings : (Json.object settings).Distinct) (hblock : (Json.object block).Distinct)
    (hfits : BlockFits settings block)
    (h : Merge.mergeLayer (.object target) (dropTaskBlocks (.object settings)) =
      .ok (.object r)) (result : Json) :
    (∃ early, Merge.mergeLayer (.object settings) (.object block) = .ok early ∧
        Merge.mergeLayer (.object target) (dropTaskBlocks early) = .ok result) ↔
      Merge.mergeLayer (.object r) (.object block) = .ok result := by
  obtain ⟨hp, hnames, hentries⟩ := hfits
  by_cases hne : block = []
  · subst hne
    rw [mergeLayer_empty_iff]
    simp only [mergeLayer_empty_iff]
    constructor
    · rintro ⟨early, rfl, hresult⟩
      exact Except.ok.inj (h.symm.trans hresult)
    · rintro rfl
      exact ⟨_, rfl, h⟩
  unfold Merge.mergeLayer at h ⊢
  obtain ⟨hkeys, hvalues⟩ := Json.distinct_object.mp hsettings
  obtain ⟨hblockKeys, hblockValues⟩ := Json.distinct_object.mp hblock
  rw [dropTaskBlocks_filter hkeys] at h
  have hassociates : ∀ e ∈ block,
      Merge.Associates (Table.get? (settings.filter isKept) e.1) e.2 := by
    intro e he
    have hold : ∀ v, settings.get? e.1 = some v → isKept (e.1, v) = true := by
      intro v hv
      exact isKept_of fun hkey => (hnames e he hkey).2 v hv
    rw [Table.get?_filter hold]
    refine (hentries e he).associates ?_ (hblockValues e he)
    intro v hv
    exact hvalues _ (Table.mem_of_get? hv)
  obtain ⟨rest, hrest, hreceives⟩ := Merge.exists_receives (.inr rfl) h
  rw [← Merge.mergeOnto_associates (Nat.zero_le _) hrest hreceives hne hp hblockKeys
    (Table.keys_filter_nodup hkeys _) hassociates, mergeEntries_isKept hp hnames]
  constructor
  · rintro ⟨early, hearly, hresult⟩
    obtain ⟨-, merged, hmerged, rfl⟩ := (Merge.mergeOnto_plain_iff hne hp rfl).mp hearly
    rw [dropTaskBlocks_filter (Merge.mergeEntries_nodup hkeys hmerged)] at hresult
    exact ⟨_, map_eq_ok.mpr ⟨merged, hmerged, rfl⟩, hresult⟩
  · rintro ⟨early, hearly, hresult⟩
    obtain ⟨merged, hmerged, rfl⟩ := map_eq_ok.mp hearly
    refine ⟨.object merged,
      (Merge.mergeOnto_plain_iff hne hp rfl).mpr ⟨Nat.zero_le _, merged, hmerged, rfl⟩, ?_⟩
    rw [dropTaskBlocks_filter (Merge.mergeEntries_nodup hkeys hmerged)]
    exact hresult

/-- Blocks can be merged onto a tree one after the other, after the settings, and each fits the
settings with the blocks before it. -/
def BlocksFit (target : Table Json) (settings : Json) (blocks : List Json) : Prop :=
  ∀ before block after, blocks = before ++ .object block :: after →
    (∃ fields, Merge.mergeLayers (.object target) (dropTaskBlocks settings :: before) =
      .ok (.object fields)) ∧
    ∀ fields, Merge.mergeLayers settings before = .ok (.object fields) → BlockFits fields block

theorem mergeLayers_cons_iff {target r layer : Json} {rest : List Json} :
    Merge.mergeLayers target (layer :: rest) = .ok r ↔
      ∃ t, Merge.mergeLayer target layer = .ok t ∧ Merge.mergeLayers t rest = .ok r :=
  bind_eq_ok

/-- A single block has no others before it. -/
theorem blocksFit_singleton {target r settings block : Table Json}
    (hr : Merge.mergeLayer (.object target) (dropTaskBlocks (.object settings)) =
      .ok (.object r)) (hfits : BlockFits settings block) :
    BlocksFit target (.object settings) [.object block] := by
  intro before other after hsplit
  cases before with
  | nil =>
      cases hsplit
      refine ⟨⟨r, mergeLayers_cons_iff.mpr ⟨_, hr, rfl⟩⟩, ?_⟩
      intro fields hfields
      cases hfields
      exact hfits
  | cons first before =>
      have hlength := congrArg List.length hsplit
      simp at hlength

theorem mergeLayers_dropTaskBlocks_nil (target : Table Json) (settings result : Json) :
    (∃ early, Merge.mergeLayers settings [] = .ok early ∧
        Merge.mergeLayer (.object target) (dropTaskBlocks early) = .ok result) ↔
      Merge.mergeLayers (.object target) [dropTaskBlocks settings] = .ok result := by
  rw [mergeLayers_cons_iff]
  constructor
  · rintro ⟨early, hearly, hresult⟩
    cases hearly
    exact ⟨result, hresult, rfl⟩
  · rintro ⟨t, ht, hresult⟩
    cases hresult
    exact ⟨settings, rfl, ht⟩

/-- Blocks that fit may all be merged onto the settings. -/
theorem mergeLayers_dropTaskBlocks {target : Table Json} {blocks : List Json}
    (hsettings : (Json.object settings).Distinct)
    (hblocks : ∀ block ∈ blocks, ∃ entries, block = .object entries ∧ block.Distinct)
    (hfits : BlocksFit target (.object settings) blocks) (result : Json) :
    (∃ early, Merge.mergeLayers (.object settings) blocks = .ok early ∧
        Merge.mergeLayer (.object target) (dropTaskBlocks early) = .ok result) ↔
      Merge.mergeLayers (.object target) (dropTaskBlocks (.object settings) :: blocks) =
        .ok result := by
  induction blocks generalizing settings with
  | nil => exact mergeLayers_dropTaskBlocks_nil target (.object settings) result
  | cons block rest ih =>
      obtain ⟨⟨entries, rfl, hdistinct⟩, hrest⟩ := List.forall_mem_cons.mp hblocks
      obtain ⟨⟨r, hr⟩, hfirst⟩ := hfits [] entries rest rfl
      obtain ⟨_, hr, hsame⟩ := mergeLayers_cons_iff.mp hr
      cases hsame
      have hstep := mergeLayer_dropTaskBlocks hsettings hdistinct (hfirst settings rfl) hr
      have hnext : ∀ s, Merge.mergeLayer (.object settings) (.object entries) = .ok s →
          ((∃ early, Merge.mergeLayers s rest = .ok early ∧
              Merge.mergeLayer (.object target) (dropTaskBlocks early) = .ok result) ↔
            Merge.mergeLayers (.object target) (dropTaskBlocks s :: rest) = .ok result) := by
        intro s hs
        obtain ⟨merged, -, rfl⟩ :=
          Merge.mergeOnto_plainObject (hfirst settings rfl).plain hs
        refine ih (Merge.mergeOnto_distinct _ hsettings hs) hrest ?_
        intro before block after hsplit
        obtain ⟨⟨fields, hfields⟩, hblock⟩ :=
          hfits (.object entries :: before) block after (congrArg (List.cons _) hsplit)
        refine ⟨⟨fields, ?_⟩, ?_⟩
        · obtain ⟨_, hr', hfields⟩ := mergeLayers_cons_iff.mp hfields
          rw [hr] at hr'
          cases hr'
          obtain ⟨t, ht, hfields⟩ := mergeLayers_cons_iff.mp hfields
          obtain ⟨early, hearly, ht⟩ := (hstep t).mpr ht
          rw [hs] at hearly
          cases hearly
          exact mergeLayers_cons_iff.mpr ⟨t, ht, hfields⟩
        · intro fields hfields
          exact hblock fields (mergeLayers_cons_iff.mpr ⟨_, hs, hfields⟩)
      constructor
      · rintro ⟨early, hearly, hresult⟩
        obtain ⟨s, hs, hearly⟩ := mergeLayers_cons_iff.mp hearly
        obtain ⟨t, ht, hresult⟩ :=
          mergeLayers_cons_iff.mp ((hnext s hs).mp ⟨early, hearly, hresult⟩)
        have ht := (hstep t).mp ⟨s, hs, ht⟩
        exact mergeLayers_cons_iff.mpr ⟨_, hr, mergeLayers_cons_iff.mpr ⟨t, ht, hresult⟩⟩
      · intro hresult
        obtain ⟨_, hr', hresult⟩ := mergeLayers_cons_iff.mp hresult
        rw [hr] at hr'
        cases hr'
        obtain ⟨t, ht, hresult⟩ := mergeLayers_cons_iff.mp hresult
        obtain ⟨s, hs, ht⟩ := (hstep t).mpr ht
        obtain ⟨early, hearly, hresult⟩ :=
          (hnext s hs).mpr (mergeLayers_cons_iff.mpr ⟨t, ht, hresult⟩)
        exact ⟨early, mergeLayers_cons_iff.mpr ⟨s, hs, hearly⟩, hresult⟩

end Layer

namespace Composition

variable {task : Option String} {debug : Bool}

/-- The tree with more layers is the tree with their trees merged onto it. -/
theorem map_tree_addAll (c : Composition) (layers : List Layer) :
    (c.addAll layers).map (·.tree) = Merge.mergeLayers c.tree (layers.map (·.tree)) := by
  induction layers generalizing c with
  | nil => rfl
  | cons l rest ih =>
      show (c.add l >>= fun d => d.addAll rest).map (·.tree) =
        (Merge.mergeLayer c.tree l.tree >>= fun t => Merge.mergeLayers t (rest.map (·.tree)))
      rw [add, Layer.mergedOnto]
      cases Merge.mergeLayer c.tree l.tree with
      | error e => rfl
      | ok t => exact ih ⟨t, c.layers ++ [(l.kind, l.name)]⟩

/-- The selected blocks of a manifest. -/
def selectedBlocks (block : Json) (task : Option String) (debug : Bool) : List Json :=
  (Layer.ofTask block task debug).map (·.tree)

theorem withManifestTasks_tree {block tree : Json} {layers : List (LayerOrigin × String)} :
    (∃ c, withManifestTasks block task debug layers = .ok c ∧ c.tree = tree) ↔
      ∃ merged, Merge.mergeLayers block (selectedBlocks block task debug) = .ok merged ∧
        Layer.dropTaskBlocks merged = tree := by
  have htrees : (manifestTaskLayers block task debug).map (·.tree) =
      selectedBlocks block task debug := by
    rw [manifestTaskLayers, selectedBlocks, List.map_map]
    rfl
  have hadded := map_tree_addAll ⟨block, layers⟩ (manifestTaskLayers block task debug)
  rw [htrees] at hadded
  rw [← hadded]
  constructor
  · rintro ⟨c, hc, rfl⟩
    obtain ⟨d, hd, hc⟩ := bind_eq_ok.mp hc
    cases hc
    exact ⟨d.tree, map_eq_ok.mpr ⟨d, hd, rfl⟩, rfl⟩
  · rintro ⟨merged, hmerged, rfl⟩
    obtain ⟨d, hd, rfl⟩ := map_eq_ok.mp hmerged
    exact ⟨d.dropTaskBlocks, bind_eq_ok.mpr ⟨d, hd, rfl⟩, rfl⟩

theorem exists_of_mem_selectedBlocks {manifest block : Json} (hmanifest : manifest.Distinct)
    (h : block ∈ selectedBlocks manifest task debug) :
    ∃ entries, block = .object entries ∧ block.Distinct := by
  obtain ⟨l, hl, rfl⟩ := List.mem_map.mp h
  obtain ⟨name, -, hl⟩ := List.mem_filterMap.mp hl
  split at hl
  next entries hget =>
    cases hl
    exact ⟨entries, rfl, hmanifest.get? hget⟩
  next => cases hl

theorem selectedBlocks_eq_nil {manifest : Json} (h : manifest.isObject = false) :
    selectedBlocks manifest task debug = [] := by
  rw [selectedBlocks, List.map_eq_nil_iff]
  apply List.filterMap_eq_nil_iff.mpr
  intro name _
  have hget : manifest.get? name = none := by
    cases manifest with
    | object entries => cases h
    | _ => rfl
  rw [hget]

/-- A tree with the layer of a manifest merged onto it.  The selected blocks are merged onto the
manifest before. -/
def mergedAsLayer (task : Option String) (debug : Bool) (layers : List (LayerOrigin × String))
    (target manifest : Json) : Except ConfigError Json := do
  let c ← withManifestTasks manifest task debug layers
  Merge.mergeLayer target c.tree

/-- A tree with the settings of a manifest merged onto it, and then each selected block. -/
def mergedInTurn (task : Option String) (debug : Bool) (target manifest : Json) :
    Except ConfigError Json :=
  Merge.mergeLayers target
    (Layer.dropTaskBlocks manifest :: selectedBlocks manifest task debug)

theorem mergedAsLayer_iff {target manifest result : Json}
    {layers : List (LayerOrigin × String)} :
    mergedAsLayer task debug layers target manifest = .ok result ↔
      ∃ early, Merge.mergeLayers manifest (selectedBlocks manifest task debug) = .ok early ∧
        Merge.mergeLayer target (Layer.dropTaskBlocks early) = .ok result := by
  rw [mergedAsLayer, bind_eq_ok]
  constructor
  · rintro ⟨c, hc, hresult⟩
    obtain ⟨merged, hmerged, heq⟩ := withManifestTasks_tree.mp ⟨c, hc, rfl⟩
    exact ⟨merged, hmerged, heq ▸ hresult⟩
  · rintro ⟨merged, hmerged, hresult⟩
    obtain ⟨c, hc, htree⟩ := withManifestTasks_tree.mpr ⟨merged, hmerged, rfl⟩
    exact ⟨c, hc, htree ▸ hresult⟩

/-- The layer of a manifest gives what its settings and its selected blocks give one after the
other, if the blocks fit. -/
theorem mergedAsLayer_iff_mergedInTurn {target : Table Json} {manifest : Json}
    (hmanifest : manifest.Distinct)
    (hfits : Layer.BlocksFit target manifest (selectedBlocks manifest task debug))
    (layers : List (LayerOrigin × String)) (result : Json) :
    mergedAsLayer task debug layers (.object target) manifest = .ok result ↔
      mergedInTurn task debug (.object target) manifest = .ok result := by
  rw [mergedAsLayer_iff, mergedInTurn]
  cases manifest with
  | object settings =>
      exact Layer.mergeLayers_dropTaskBlocks hmanifest
        (fun block hblock => exists_of_mem_selectedBlocks hmanifest hblock) hfits result
  | _ =>
      rw [selectedBlocks_eq_nil rfl]
      exact Layer.mergeLayers_dropTaskBlocks_nil target _ result

/-- The settings of a project, with a block that adds an identifier for builds. -/
def buildsAddC : Table Json :=
  [("ids", .array [.string "b"]),
    ("build", .object [("ids", .object [("__append__", .array [.string "c"])]),
      ("port", .object [("open", .bool true)])])]

theorem blockFits_buildsAddC :
    Layer.BlockFits buildsAddC
      [("ids", .object [("__append__", .array [.string "c"])]),
        ("port", .object [("open", .bool true)])] := by
  have hids : Merge.Fits (some (.array [.string "b"]))
      (.object [("__append__", .array [.string "c"])]) := by
    apply Merge.Fits.changed
    · simp
    · decide
    · intro v hv
      cases hv
    · decide
  have hport : Merge.Fits none (.object [("open", .bool true)]) := by
    apply Merge.Fits.entries
    · simp
    · decide
    · simp
    · simp only [List.forall_mem_cons]
      exact ⟨.scalar rfl rfl, by simp⟩
  refine ⟨by decide, by decide, ?_⟩
  simp only [List.forall_mem_cons]
  exact ⟨hids, hport, by simp⟩

/-- The settings have an array that the identifier is added to, so it is added either way. -/
theorem mergedAsLayer_buildsAddC :
    mergedAsLayer (some "build") false [] (.object [("ids", .array [.string "a"])])
          (.object buildsAddC) =
        .ok (.object [("ids", .array [.string "b", .string "c"]),
          ("port", .object [("open", .bool true)])]) ∧
      mergedInTurn (some "build") false (.object [("ids", .array [.string "a"])])
          (.object buildsAddC) =
        .ok (.object [("ids", .array [.string "b", .string "c"]),
          ("port", .object [("open", .bool true)])]) := by
  have hfits : Layer.BlocksFit [("ids", .array [.string "a"])] (.object buildsAddC)
      (selectedBlocks (.object buildsAddC) (some "build") false) :=
    Layer.blocksFit_singleton (r := [("ids", .array [.string "b"])]) (by rfl)
      blockFits_buildsAddC
  have hlate : mergedInTurn (some "build") false (.object [("ids", .array [.string "a"])])
      (.object buildsAddC) =
      .ok (.object [("ids", .array [.string "b", .string "c"]),
        ("port", .object [("open", .bool true)])]) := by
    rfl
  exact ⟨(mergedAsLayer_iff_mergedInTurn (by decide) hfits [] _).mpr hlate, hlate⟩

/-- A block does not act on the tree where the settings have nothing to add to, or a null in
the place of a mapping.  A block of another task in it is lost.  A scalar of it hides that the
settings do not go onto the tree. -/
theorem mergedAsLayer_ne_mergedInTurn :
    (mergedAsLayer (some "build") false [] (.object [("ids", .array [.string "a"])])
          (.object [("build", .object [("ids", .object [("__append__", .array [.string "b"])])])]) =
        .ok (.object [("ids", .array [.string "b"])]) ∧
      mergedInTurn (some "build") false (.object [("ids", .array [.string "a"])])
          (.object [("build", .object [("ids", .object [("__append__", .array [.string "b"])])])]) =
        .ok (.object [("ids", .array [.string "a", .string "b"])])) ∧
    (mergedAsLayer (some "build") false [] (.object [("a", .object [("x", .null)])])
          (.object [("a", .null), ("build", .object [("a", .object [("y", .null)])])]) =
        .ok (.object [("a", .object [("x", .null), ("y", .null)])]) ∧
      mergedInTurn (some "build") false (.object [("a", .object [("x", .null)])])
          (.object [("a", .null), ("build", .object [("a", .object [("y", .null)])])]) =
        .ok (.object [("a", .object [("y", .null)])])) ∧
    (mergedAsLayer (some "build") false [] (.object [])
          (.object [("build", .object [("debug", .object [])])]) = .ok (.object []) ∧
      mergedInTurn (some "build") false (.object [])
          (.object [("build", .object [("debug", .object [])])]) =
        .ok (.object [("debug", .object [])])) ∧
    mergedAsLayer (some "build") false [] (.object [("a", .object [("x", .null)])])
          (.object [("a", .array []), ("build", .object [("a", .bool true)])]) =
        .ok (.object [("a", .bool true)]) ∧
      (mergedInTurn (some "build") false (.object [("a", .object [("x", .null)])])
          (.object [("a", .array []), ("build", .object [("a", .bool true)])])).isOk = false :=
  ⟨⟨by rfl, by rfl⟩, ⟨by rfl, by rfl⟩, ⟨by rfl, by rfl⟩, by rfl, by rfl⟩

end Composition

end BundleConfig
