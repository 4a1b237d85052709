import BundleConfig.Proofs.Configuration.Stages
import BundleConfig.Proofs.Merge.Comments
import BundleConfig.Proofs.Merge.Invariant
import BundleConfig.Proofs.Path.Rendering

/-!
# The tree on its way through a load

Every composed tree is distinct, whatever the layers are: the composition begins with
the empty mapping, and a merge keeps a distinct tree distinct.  The facts of a project
keep it so.

After the composition a stage writes below few keys of the root.  A path that begins
with another key leads to the same node before and after, apart from the comments that
are taken away and the expressions that are evaluated.
-/

namespace BundleConfig

/-! ## Updates -/

namespace Sections

variable {tree r : Json} {change : Table Json → Table Json}

theorem update_eq_ok {path : String} (h : update tree path change = .ok r) :
    ∃ entries, r = (KeyPath.ofText path).set (.object (change entries)) tree := by
  obtain ⟨entries, -, h⟩ := bind_eq_ok.mp h
  cases h
  exact ⟨entries, rfl⟩

/-- An update of the root changes the entries of the tree. -/
theorem update_root (h : update tree "" change = .ok r) :
    ∃ entries, tree = .object entries ∧ r = .object (change entries) := by
  obtain ⟨entries, hentries, h⟩ := bind_eq_ok.mp h
  cases h
  refine ⟨entries, ?_, rfl⟩
  unfold Sections.entries at hentries
  split at hentries
  next found hfound =>
    cases hentries
    cases tree with
    | object fields =>
        cases hfound
        rfl
    | _ => cases hfound
  next => cases hentries

end Sections

/-! ## Composed trees -/

namespace Composition

variable {c c' : Composition}

theorem add_distinct {l : Layer} (hd : c.tree.Distinct) (h : c.add l = .ok c') :
    c'.tree.Distinct := by
  obtain ⟨tree, htree, h⟩ := bind_eq_ok.mp h
  cases h
  exact Merge.mergeOnto_distinct l.tree hd htree

theorem addAll_distinct {layers : List Layer} (hd : c.tree.Distinct)
    (h : c.addAll layers = .ok c') : c'.tree.Distinct := by
  induction layers generalizing c with
  | nil =>
      cases h
      exact hd
  | cons l rest ih =>
      obtain ⟨next, hnext, h⟩ := bind_eq_ok.mp h
      exact ih (add_distinct hd hnext) h

theorem packaged_distinct {block : Json} {debug : Bool} (h : packaged block debug = .ok c) :
    c.tree.Distinct := by
  obtain ⟨base, hbase, h⟩ := bind_eq_ok.mp h
  have hd : base.tree.Distinct := add_distinct (Merge.stable_distinct.empty (Nat.zero_le _)) hbase
  extract_lets withLibrary at h
  have hlibrary : ∀ {d : Composition}, d.tree.Distinct → withLibrary d = .ok c →
      c.tree.Distinct := by
    intro d hd hc
    dsimp only [withLibrary] at hc
    split at hc
    · obtain ⟨l, -, hc⟩ := bind_eq_ok.mp hc
      exact add_distinct hd hc
    · cases hc
      exact hd
  split at h
  · obtain ⟨debugged, hdebugged, h⟩ := bind_eq_ok.mp h
    exact hlibrary (add_distinct hd hdebugged) h
  · exact hlibrary hd h

end Composition

namespace Layer

theorem dropTaskBlock_distinct {entries : Table Json} (h : (Json.object entries).Distinct)
    (name : String) : (Json.object (dropTaskBlock entries name)).Distinct := by
  unfold dropTaskBlock
  split
  · exact h.erase name
  · exact h

theorem dropTaskBlocks_distinct {tree : Json} (h : tree.Distinct) :
    (dropTaskBlocks tree).Distinct := by
  cases tree with
  | object entries =>
      exact List.foldlRecOn (motive := fun fields : Table Json => (Json.object fields).Distinct)
        taskNames _ h fun fields hfields name _ => dropTaskBlock_distinct hfields name
  | _ => exact h

end Layer

namespace Composition

variable {c c' : Composition} {fs : FileSystem} {context : Path} {block : Json} {runtime : Layer}
  {r : Request}

/-- An override is merged onto what the other layers compose. -/
theorem ofLayers_override {text : String}
    (h : ofLayers fs context block runtime { r with override := some text } = .ok c) :
    ∃ lower settings completed,
      ofLayers fs context block runtime { r with override := none } = .ok lower ∧
        Override.parse text = .ok settings ∧
        Override.withReferents fs lower.tree context settings = .ok completed ∧
        Merge.mergeLayer lower.tree completed = .ok c.tree := by
  obtain ⟨base, hbase, h⟩ := bind_eq_ok.mp h
  obtain ⟨tasked, htasked, h⟩ := bind_eq_ok.mp h
  obtain ⟨manifest, hmanifest, h⟩ := bind_eq_ok.mp h
  obtain ⟨given, hgiven, h⟩ := bind_eq_ok.mp h
  obtain ⟨lower, hlower, h⟩ := bind_eq_ok.mp h
  obtain ⟨settings, hsettings, h⟩ := bind_eq_ok.mp h
  obtain ⟨completed, hcompleted, h⟩ := bind_eq_ok.mp h
  obtain ⟨tree, htree, h⟩ := bind_eq_ok.mp h
  cases h
  refine ⟨lower, settings, completed, ?_, hsettings, hcompleted, htree⟩
  refine bind_eq_ok.mpr ⟨base, hbase, bind_eq_ok.mpr ⟨tasked, htasked, ?_⟩⟩
  refine bind_eq_ok.mpr ⟨manifest, hmanifest, bind_eq_ok.mpr ⟨given, hgiven, ?_⟩⟩
  exact bind_eq_ok.mpr ⟨lower, hlower, rfl⟩

/-- Composed trees are distinct. -/
theorem ofLayers_distinct (h : ofLayers fs context block runtime r = .ok c) :
    c.tree.Distinct := by
  obtain ⟨base, hbase, h⟩ := bind_eq_ok.mp h
  obtain ⟨tasked, htasked, h⟩ := bind_eq_ok.mp h
  obtain ⟨manifest, hmanifest, h⟩ := bind_eq_ok.mp h
  obtain ⟨given, hgiven, h⟩ := bind_eq_ok.mp h
  obtain ⟨lower, hlower, h⟩ := bind_eq_ok.mp h
  have htask : tasked.tree.Distinct := addAll_distinct (packaged_distinct hbase) htasked
  have hd : lower.tree.Distinct :=
    add_distinct (add_distinct (Layer.dropTaskBlocks_distinct htask) hgiven) hlower
  cases hoverride : r.override with
  | none =>
      rw [hoverride] at h
      cases h
      exact hd
  | some text =>
      rw [hoverride] at h
      obtain ⟨settings, -, h⟩ := bind_eq_ok.mp h
      obtain ⟨completed, -, h⟩ := bind_eq_ok.mp h
      exact add_distinct hd h

end Composition

/-! ## Facts -/

namespace ProjectPaths

variable {fs : FileSystem}

mutual

theorem resolveMember_distinct : ∀ (v : Json) {base : Path}, v.Distinct →
    (resolveMember fs base v).Distinct
  | v, base, h => by
      cases v with
      | object entries =>
          rw [resolveMember]
          split
          · exact h
          · obtain ⟨hkeys, hvalues⟩ := Json.distinct_object.mp h
            obtain ⟨hsame, hmembers⟩ := resolveMembers_distinct entries hvalues
            refine Json.Distinct.insert (Json.distinct_object.mpr ⟨?_, hmembers⟩) "base" trivial
            rw [hsame]
            exact hkeys
      | string text =>
          rw [resolveMember]
          trivial
      | _ => exact h
termination_by structural v => v

/-- The members keep their keys. -/
theorem resolveMembers_distinct : ∀ (entries : List (String × Json)) {base : Path},
    (∀ e ∈ entries, e.2.Distinct) →
    Table.keys (resolveMembers fs base entries) = Table.keys entries ∧
      ∀ e ∈ resolveMembers fs base entries, e.2.Distinct
  | [], _, _ => ⟨rfl, List.forall_mem_nil _⟩
  | (key, v) :: rest, base, h => by
      obtain ⟨hv, hrest⟩ := List.forall_mem_cons.mp h
      obtain ⟨hsame, hmembers⟩ := resolveMembers_distinct rest hrest
      refine ⟨congrArg (key :: ·) hsame, List.forall_mem_cons.mpr ⟨?_, hmembers⟩⟩
      dsimp only
      split
      · exact hv
      · exact resolveMember_distinct v hv
termination_by structural entries => entries

end

theorem resolveAll_distinct {context : Path} {paths r : Json} (hd : paths.Distinct)
    (h : resolveAll fs context paths = .ok r) : r.Distinct := by
  cases paths with
  | object entries =>
      cases h
      have hinserted := (hd.insert "context" (v := spelled context) trivial).insert "base"
        (v := spelled (fs.resolve context ⟨textAt entries "base"⟩)) trivial
      obtain ⟨hkeys, hvalues⟩ := Json.distinct_object.mp hinserted
      refine Json.distinct_object.mpr ⟨?_, fun e he => ?_⟩
      · rw [Table.keys, List.map_map]
        exact hkeys
      · obtain ⟨⟨key, v⟩, hmem, rfl⟩ := List.mem_map.mp he
        dsimp only
        split
        · exact hvalues _ hmem
        · exact resolveMember_distinct v (hvalues _ hmem)
  | _ => cases h

end ProjectPaths

theorem Path.listToJson_distinct {paths : List Path} {v : Json}
    (h : Path.listToJson paths = .ok v) : v.Distinct := by
  obtain ⟨items, hitems, h⟩ := bind_eq_ok.mp h
  cases h
  refine Json.distinct_array.mpr fun item hitem => ?_
  obtain ⟨p, -, hp⟩ := (mem_of_mapM hitems).mp hitem
  obtain ⟨-, rfl⟩ := Path.toJson_eq_ok_iff.mp hp
  exact trivial

namespace Configuration

/-- The keys of the facts of a project. -/
def factKeys : List String := ["debug", "contextType", "path", "dllManifestFilePaths"]

variable {fs : FileSystem} {project : Project} {debug : Bool} {tree r : Json}
  {manifests : List Path}

/-- A key that is not written keeps its value. -/
theorem get?_insert_of_ne {fields : Table Json} {key name : String} {v : Json} (h : key ≠ name) :
    (Json.object (fields.insert name v)).get? key = (Json.object fields).get? key :=
  Table.get?_insert_of_ne fields v h

/-- The facts of a project keep a tree distinct, and what stands under other keys loses
nothing but comments. -/
theorem withFacts_eq_ok (hd : tree.Distinct)
    (h : withFacts fs project debug tree = .ok (r, manifests)) :
    r.Distinct ∧ ∀ key, key ∉ factKeys → r.get? key = (Merge.removeComments tree).get? key := by
  obtain ⟨flagged, hflagged, h⟩ := bind_eq_ok.mp h
  obtain ⟨fields, hfields, rfl⟩ := Sections.update_root hflagged
  have hclean : (Json.object fields).Distinct := hfields ▸ Merge.removeComments_distinct tree hd
  have hflags := (hclean.insert "debug" (v := .bool debug) trivial).insert "contextType"
    (v := .string project.role.toText) trivial
  split at h
  next paths hpaths =>
    obtain ⟨absolute, habsolute, h⟩ := bind_eq_ok.mp h
    obtain ⟨located, hlocated, h⟩ := bind_eq_ok.mp h
    obtain ⟨entries, heq, rfl⟩ := Sections.update_root hlocated
    cases heq
    have hpath := hflags.insert "path"
      (ProjectPaths.resolveAll_distinct (hflags.get? hpaths) habsolute)
    obtain ⟨written, hwritten, h⟩ := bind_eq_ok.mp h
    obtain ⟨complete, hcomplete, h⟩ := bind_eq_ok.mp h
    obtain ⟨entries, heq, rfl⟩ := Sections.update_root hcomplete
    cases heq
    cases h
    refine ⟨hpath.insert _ (Path.listToJson_distinct hwritten), fun key hkey => ?_⟩
    simp only [factKeys, List.mem_cons, List.not_mem_nil, or_false, not_or] at hkey
    obtain ⟨hdebug, htype, hpathKey, hmanifests⟩ := hkey
    rw [get?_insert_of_ne hmanifests, get?_insert_of_ne hpathKey, get?_insert_of_ne htype,
      get?_insert_of_ne hdebug, hfields]
  next => cases h

/-! ## What is looked up -/

/-- The first keys under which a load writes after the expressions are evaluated. -/
def lookupKeys : List String := ["buildContext", "injection", "needed", "module"]

variable {g : Ground} {c : Configuration}

/-- What stands under other keys is as it was evaluated. -/
theorem Stages.get?_evaluated (s : Stages g c) {key : String} {rest : KeyPath}
    (hkey : key ∉ lookupKeys) :
    KeyPath.get? (.key key :: rest) c.tree = KeyPath.get? (.key key :: rest) s.evaluated := by
  simp only [lookupKeys, List.mem_cons, List.not_mem_nil, or_false, not_or] at hkey
  obtain ⟨hcontext, hinjection, hneeded, hmodule⟩ := hkey
  have hunrelated : ∀ {first : String} (below : KeyPath), key ≠ first →
      ¬ KeyPath.Related (.key first :: below) (.key key :: rest) := by
    intro first below hne hrelated
    cases (KeyPath.related_cons.mp hrelated).1
    exact hne rfl
  obtain ⟨types, htypes⟩ := Sections.update_eq_ok s.hasTypes
  obtain ⟨fields, hfields, hbundled⟩ := Sections.update_root s.hasBundle
  obtain ⟨located, hlocated⟩ := Sections.update_eq_ok s.hasLocations
  have hroot : s.bundled.get? key = s.typed.get? key := by
    rw [hbundled, hfields, get?_insert_of_ne hneeded, get?_insert_of_ne hinjection]
  calc KeyPath.get? (.key key :: rest) c.tree
      = KeyPath.get? (.key key :: rest) s.bundled := by
        rw [hlocated]
        exact KeyPath.get?_set_of_unrelated (hunrelated [] hmodule) _ _
    _ = KeyPath.get? (.key key :: rest) s.typed := by
        exact congrArg (·.bind (KeyPath.get? rest)) hroot
    _ = KeyPath.get? (.key key :: rest) s.evaluated := by
        rw [htypes]
        exact KeyPath.get?_set_of_unrelated (hunrelated [.key "types"] hcontext) _ _

end Configuration

end BundleConfig
