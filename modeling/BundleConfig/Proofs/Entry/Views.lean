import BundleConfig.Proofs.Entry.Accounting
import BundleConfig.Proofs.Path.Rendering

/-!
# The views of a bundle

A bundle says one thing in several places.  The *modules* of its chunks say what became of
each specifier.  The *normalized* entries are the specifiers of the internal modules, and the
*external* ones are those of the others.  The *locations* are the files of the internal
modules and the directories of these files.

The places are filled apart from each other.  Chunks without internal modules are dropped
from the normalized entries first, and then from the modules by name.  When no chunk is left
the normalized entries get an empty one, and the modules get it if they have none of that
name.  The locations are found by resolving the normalized entries again.  So that they
agree rests on two facts: the names of chunks are distinct, and a module has the file that
its request resolves to.
-/

namespace BundleConfig

/-! ## What a module says -/

namespace EntryModule

variable {m : EntryModule} {tree : Json}

/-- A module has a tree unless the path of its file is no text. -/
theorem exists_toJson_iff : (∃ tree, m.toJson = .ok tree) ↔ ∀ p ∈ m.file, p.IsText := by
  obtain ⟨request, file, assetType⟩ := m
  cases file with
  | none => exact ⟨fun _ => nofun, fun _ => ⟨_, rfl⟩⟩
  | some p =>
      simp only [Option.mem_some_iff, forall_eq']
      constructor
      · rintro ⟨tree, h⟩
        obtain ⟨file, hfile, -⟩ := bind_eq_ok.mp h
        exact p.exists_toJson_iff.mp ⟨file, hfile⟩
      · intro h
        obtain ⟨file, hfile⟩ := p.exists_toJson_iff.mpr h
        exact ⟨_, bind_eq_ok.mpr ⟨file, hfile, rfl⟩⟩

theorem toJson_kind (h : m.toJson = .ok tree) :
    tree.get? "kind" = some (.string (if m.isInternal then "internal" else "external")) := by
  obtain ⟨file, -, h⟩ := bind_eq_ok.mp h
  cases h
  rfl

theorem toJson_internal_iff (h : m.toJson = .ok tree) :
    m.isInternal = true ↔ tree.get? "kind" = some (.string "internal") := by
  rw [toJson_kind h]
  cases m.isInternal <;> simp

theorem toJson_path_iff (h : m.toJson = .ok tree) :
    m.isInternal = true ↔ ∃ p : Path, tree.get? "absolutePath" = some (.string p.text) := by
  obtain ⟨request, file, assetType⟩ := m
  obtain ⟨written, hwritten, h⟩ := bind_eq_ok.mp h
  cases h
  cases file with
  | none =>
      cases hwritten
      have hpath : ∀ p : Path, ¬some Json.null = some (.string p.text) := nofun
      exact ⟨nofun, fun ⟨p, hp⟩ => absurd hp (hpath p)⟩
  | some p =>
      obtain ⟨-, rfl⟩ := Path.toJson_eq_ok_iff.mp hwritten
      exact ⟨fun _ => ⟨p, rfl⟩, fun _ => rfl⟩

end EntryModule

namespace EntryFinder

variable {f : EntryFinder} {fs : FileSystem} {s : EntrySettings} {given : GivenEntries}

/-! ## Chunks -/

section

variable {modules : Table (List EntryModule)}

/-- The chunks with internal modules, as the normalized entries list them. -/
def fullChunks (modules : Table (List EntryModule)) : Chunks :=
  (modules.mapValues internalRequests).filter fun chunk => !List.isEmpty chunk.2

/-- The modules of the chunks of some names. -/
def modulesIn (chunks : Chunks) (modules : Table (List EntryModule)) :
    Table (List EntryModule) :=
  modules.filter fun entry => Table.contains chunks entry.1

/-- Empty lists for the chunks that have no modules. -/
def missingFrom (modules : Table (List EntryModule)) (chunks : Chunks) :
    Table (List EntryModule) :=
  (chunks.filter fun chunk => !Table.contains modules chunk.1).map fun chunk => (chunk.1, [])

theorem bundle_eq (s : EntrySettings) (given : GivenEntries)
    (modules : Table (List EntryModule)) :
    (bundle s given modules).modules =
      modulesIn (bundle s given modules).normalized modules ++
        missingFrom (modulesIn (bundle s given modules).normalized modules)
          (bundle s given modules).normalized :=
  rfl

/-- Full chunks keep their modules. -/
theorem modulesIn_fullChunks (h : modules.keys.Nodup) :
    (modulesIn (fullChunks modules) modules).mapValues internalRequests = fullChunks modules := by
  have hkeys : (modules.mapValues internalRequests).keys.Nodup := by
    rw [Table.keys_mapValues]
    exact h
  have hkept : ∀ entry ∈ modules, Table.contains (fullChunks modules) entry.1 =
      !List.isEmpty (internalRequests entry.2) := by
    intro entry hentry
    exact Table.contains_filter hkeys (fun chunk => !List.isEmpty chunk.2)
      (Table.mem_mapValues.mpr ⟨entry.2, hentry, rfl⟩)
  rw [modulesIn, List.filter_congr hkept, fullChunks, Table.mapValues, Table.mapValues,
    List.filter_map]
  rfl

theorem missingFrom_fullChunks (h : modules.keys.Nodup) :
    missingFrom (modulesIn (fullChunks modules) modules) (fullChunks modules) = [] := by
  rw [missingFrom, List.map_eq_nil_iff, List.filter_eq_nil_iff]
  intro chunk hchunk
  have hname : chunk.1 ∈ (modulesIn (fullChunks modules) modules).keys := by
    rw [← Table.keys_mapValues internalRequests, modulesIn_fullChunks h]
    exact List.mem_map_of_mem hchunk
  simp [Table.contains_iff.mpr hname]

/-- The chunk that stands in when no other one is left. -/
def emptyChunk : Chunks := [(Chunks.defaultName, [])]

/-- Where no chunk is full, only one of the default name may keep its modules. -/
theorem modulesIn_emptyChunk (h : modules.keys.Nodup) (hnone : fullChunks modules = []) :
    modulesIn emptyChunk modules = [] ∨
      ∃ ms, internalRequests ms = [] ∧
        modulesIn emptyChunk modules = [(Chunks.defaultName, ms)] := by
  have hmem : ∀ entry ∈ modulesIn emptyChunk modules,
      entry.1 = Chunks.defaultName ∧ internalRequests entry.2 = [] := by
    rintro ⟨name, ms⟩ hentry
    obtain ⟨hentry, hname⟩ := List.mem_filter.mp hentry
    have hempty := List.filter_eq_nil_iff.mp hnone _ (Table.mem_mapValues.mpr ⟨ms, hentry, rfl⟩)
    exact ⟨List.mem_singleton.mp (Table.contains_iff.mp hname), by simpa using hempty⟩
  have hnodup : (modulesIn emptyChunk modules).keys.Nodup := Table.keys_filter_nodup h _
  cases hkept : modulesIn emptyChunk modules with
  | nil => exact .inl rfl
  | cons entry rest =>
      right
      rw [hkept] at hmem hnodup
      obtain ⟨⟨hname, hempty⟩, hrest⟩ := List.forall_mem_cons.mp hmem
      obtain ⟨hnotin, -⟩ := List.nodup_cons.mp hnodup
      have hnil : rest = [] := by
        apply List.eq_nil_iff_forall_not_mem.mpr
        intro other hother
        have hsame : other.1 = entry.1 := (hrest other hother).1.trans hname.symm
        apply hnotin
        show entry.1 ∈ Table.keys rest
        rw [← hsame]
        exact List.mem_map_of_mem hother
      exact ⟨entry.2, hempty, by rw [hnil, ← hname]⟩

/-- The normalized entries are the specifiers of the internal modules, chunk by chunk. -/
theorem bundle_normalized (h : modules.keys.Nodup) :
    (bundle s given modules).modules.mapValues internalRequests =
      (bundle s given modules).normalized := by
  have hnormalized : (bundle s given modules).normalized =
      if fullChunks modules = [] then emptyChunk else fullChunks modules := by
    show Chunks.dropEmpty _ = _
    rw [Chunks.dropEmpty, ← fullChunks]
    cases fullChunks modules <;> rfl
  rw [bundle_eq, hnormalized]
  split
  next hnone =>
    rcases modulesIn_emptyChunk h hnone with hkept | ⟨ms, hempty, hkept⟩
    · rw [hkept]
      rfl
    · rw [hkept]
      simp [Table.mapValues, missingFrom, emptyChunk, Table.contains, hempty]
  next => rw [missingFrom_fullChunks h, List.append_nil, modulesIn_fullChunks h]

end

/-! ## Locations -/

theorem foldl_addPath (paths known : List Path) :
    paths.foldl addPath known.reverse = List.eraseDupsBy.loop Path.same paths known := by
  induction paths generalizing known with
  | nil => rfl
  | cons p rest ih =>
      rw [List.foldl_cons, addPath, List.any_reverse, List.eraseDupsBy.loop]
      cases hknown : known.any p.same with
      | true =>
          rw [if_pos rfl]
          exact ih known
      | false =>
          rw [if_neg Bool.false_ne_true, ← List.reverse_cons]
          exact ih (p :: known)

/-- The locations are the paths and their parents, each where it comes first. -/
theorem foldl_addLocation (paths : List Path) :
    paths.foldl addLocation {} =
      ⟨paths.eraseDupsBy Path.same, (paths.filterMap Path.parent).eraseDupsBy Path.same⟩ := by
  have hfold : ∀ (paths files directories : List Path),
      paths.foldl addLocation ⟨files, directories⟩ =
        ⟨paths.foldl addPath files, (paths.filterMap Path.parent).foldl addPath directories⟩ := by
    intro paths
    induction paths with
    | nil => exact fun files directories => rfl
    | cons p rest ih =>
        intro files directories
        rw [List.foldl_cons, addLocation, ih]
        cases hparent : p.parent with
        | none => simp [hparent]
        | some directory => simp [hparent]
  refine (hfold paths [] []).trans ?_
  rw [List.eraseDupsBy, List.eraseDupsBy, ← foldl_addPath, ← foldl_addPath]
  rfl

/-- Resolving the requests of internal modules gives their files. -/
theorem filterMap_resolve_internalRequests {ms : List EntryModule}
    (h : ∀ m ∈ ms, m.file = f.resolver.resolve fs m.request) :
    (internalRequests ms).filterMap (f.resolver.resolve fs) = ms.filterMap (·.file) := by
  induction ms with
  | nil => rfl
  | cons m rest ih =>
      obtain ⟨hm, hrest⟩ := List.forall_mem_cons.mp h
      have ih := ih hrest
      rw [internalRequests] at ih ⊢
      cases hfile : m.file with
      | none =>
          rw [List.filter_cons_of_neg (by simp [EntryModule.isInternal, hfile]), ih,
            List.filterMap_cons_none hfile]
      | some p =>
          rw [List.filter_cons_of_pos (by simp [EntryModule.isInternal, hfile]), List.map_cons,
            List.filterMap_cons_some (hm.symm.trans hfile), ih, List.filterMap_cons_some hfile]

/-! ## All views -/

/-- The views of a bundle agree. -/
structure ViewsAgree (f : EntryFinder) (fs : FileSystem) (b : BundleEntries) : Prop where
  /-- No normalized chunk is empty, unless it stands alone for all of them. -/
  full : (∀ chunk ∈ b.normalized, chunk.2 ≠ []) ∨ b.normalized = emptyChunk
  /-- The normalized chunks are those of the modules, in their order. -/
  names : b.modules.keys = b.normalized.keys
  /-- They list the requests of the internal modules, in their order. -/
  requests : b.modules.mapValues internalRequests = b.normalized
  /-- They list a request once. -/
  distinct : ∀ chunk ∈ b.normalized, chunk.2.Nodup
  /-- A module is internal exactly when it has a file.  Its tree says that it is internal
  exactly then, and has a path exactly then. -/
  kinds : ∀ ms ∈ b.modules.values, ∀ m ∈ ms, (m.isInternal = true ↔ ∃ p, m.file = some p) ∧
    ∀ tree, m.toJson = .ok tree →
      (m.isInternal = true ↔ tree.get? "kind" = some (.string "internal")) ∧
        (m.isInternal = true ↔ ∃ p : Path, tree.get? "absolutePath" = some (.string p.text))
  /-- It has a tree unless the path of the file is no text. -/
  written : ∀ ms ∈ b.modules.values, ∀ m ∈ ms,
    (∃ tree, m.toJson = .ok tree) ↔ ∀ p ∈ m.file, p.IsText
  /-- A module that is external is among the external specifiers. -/
  external : ∀ ms ∈ b.modules.values, ∀ m ∈ ms, m.isInternal = false → m.request ∈ b.external
  /-- These are listed once. -/
  externalDistinct : b.external.Nodup
  /-- The files are those of the internal modules, each where it comes first. -/
  files : (f.locationsOf fs b.normalized).files =
    (b.modules.values.flatten.filterMap (·.file)).eraseDupsBy Path.same
  /-- The directories are those of these files. -/
  directories : (f.locationsOf fs b.normalized).directories =
    ((b.modules.values.flatten.filterMap (·.file)).filterMap Path.parent).eraseDupsBy Path.same

variable {b : BundleEntries}

/-- Every module of a bundle has the file of its request. -/
theorem file_of_mem_modules (hb : f.resolveFrom fs s given = .ok b) {ms : List EntryModule}
    (hms : ms ∈ b.modules.values) {m : EntryModule} (hm : m ∈ ms) :
    m.file = f.resolver.resolve fs m.request := by
  obtain ⟨⟨name, ms⟩, hmem, rfl⟩ := List.mem_map.mp hms
  obtain ⟨chunks, -, hb⟩ := bind_eq_ok.mp hb
  obtain ⟨modules, hmodules, hb⟩ := bind_eq_ok.mp hb
  cases hb
  obtain ⟨specifiers, -, hof⟩ :=
    (mem_modulesOf hmodules).1 ms (mem_of_mem_bundle_modules hm hmem)
  exact (hof.mem hm).2.symm

/-- The names of the chunks with modules are distinct. -/
theorem keys_modulesOf_nodup {chunks : Chunks} (hgiven : given.Distinct)
    (h : f.chunkLists fs s given = .ok chunks) {modules : Table (List EntryModule)}
    (hmodules : f.modulesOf fs s chunks.dropEmpty = .ok modules) : modules.keys.Nodup := by
  rw [← Table.keys_mapValues internalRequests, mapValues_internalRequests hmodules,
    Table.keys_mapValues]
  exact Chunks.keys_dropEmpty_nodup (keys_chunkLists_nodup hgiven h)

/-- The files of the modules are what the normalized entries resolve to. -/
theorem filterMap_resolve_normalized (hb : f.resolveFrom fs s given = .ok b)
    (hrequests : b.modules.mapValues internalRequests = b.normalized) :
    b.normalized.values.flatten.filterMap (f.resolver.resolve fs) =
      b.modules.values.flatten.filterMap (·.file) := by
  have hvalues : b.normalized.values = b.modules.values.map internalRequests := by
    rw [← hrequests, Table.values, Table.mapValues, Table.values, List.map_map, List.map_map]
    rfl
  rw [hvalues, List.filterMap_flatten, List.filterMap_flatten, List.map_map]
  apply congrArg
  apply List.map_congr_left
  intro ms hms
  exact filterMap_resolve_internalRequests fun m hm => file_of_mem_modules hb hms hm

theorem nodup_of_mem_normalized {chunks : Chunks} (h : f.chunkLists fs s given = .ok chunks)
    (hb : f.resolveFrom fs s given = .ok b) {name : String} {l : List String}
    (hmem : (name, l) ∈ b.normalized) : l.Nodup := by
  rw [(resolveFrom_eq_ok h hb).1] at hmem
  by_cases hnil : l = []
  · rw [hnil]
    exact List.nodup_nil
  · obtain ⟨specifiers, -, rfl⟩ :=
      Table.mem_mapValues.mp ((Chunks.mem_dropEmpty hnil).mp hmem)
    exact (Specifier.nodup_distinct specifiers).filter _

/-- An external module of a kept chunk is among the external specifiers. -/
theorem mem_external_of_mem_modules {modules : Table (List EntryModule)} {ms : List EntryModule}
    (hms : ms ∈ (bundle s given modules).modules.values) {m : EntryModule} (hm : m ∈ ms)
    (hkind : m.isInternal = false) : m.request ∈ (bundle s given modules).external := by
  obtain ⟨⟨name, ms⟩, hmem, rfl⟩ := List.mem_map.mp hms
  have hmem := mem_of_mem_bundle_modules hm hmem
  apply Specifier.mem_distinct.mpr
  apply List.mem_flatMap.mpr
  refine ⟨ms, List.mem_map_of_mem hmem, List.mem_map_of_mem (List.mem_filter.mpr ⟨hm, ?_⟩)⟩
  rw [hkind]
  rfl

/-- The views of every bundle agree. -/
theorem resolveFrom_viewsAgree (hgiven : given.Distinct)
    (hb : f.resolveFrom fs s given = .ok b) : f.ViewsAgree fs b := by
  obtain ⟨chunks, hchunks, hb'⟩ := bind_eq_ok.mp hb
  obtain ⟨modules, hmodules, hbundle⟩ := bind_eq_ok.mp hb'
  obtain rfl := Except.ok.inj hbundle
  have hrequests : (bundle s given modules).modules.mapValues internalRequests =
      (bundle s given modules).normalized :=
    bundle_normalized (keys_modulesOf_nodup hgiven hchunks hmodules)
  have hfiles := filterMap_resolve_normalized hb hrequests
  refine ⟨?_, ?_, hrequests, ?_, ?_, ?_, ?_, Specifier.nodup_distinct _, ?_, ?_⟩
  · by_cases hempty : (bundle s given modules).normalized = emptyChunk
    · exact .inr hempty
    · left
      rintro ⟨name, l⟩ hmem
      exact (Chunks.dropEmpty_full _ hmem).resolve_right hempty
  · rw [← hrequests, Table.keys_mapValues]
  · rintro ⟨name, l⟩ hmem
    exact nodup_of_mem_normalized hchunks hb hmem
  · intro ms _ m _
    exact ⟨Option.isSome_iff_exists,
      fun tree htree => ⟨EntryModule.toJson_internal_iff htree, EntryModule.toJson_path_iff htree⟩⟩
  · exact fun ms _ m _ => EntryModule.exists_toJson_iff
  · exact fun ms hms m hm => mem_external_of_mem_modules hms hm
  · rw [locationsOf, hfiles, foldl_addLocation]
  · rw [locationsOf, hfiles, foldl_addLocation]

/-- A file in two spellings and a package, in one chunk, and the package alone in another. -/
def sharedEntries : GivenEntries :=
  .chunks [("main", ["./a", "react", "./a.js"]), ("vendor", ["react"])]

/-- The chunk of the package alone is gone from all views, and the file stands in its
locations once. -/
theorem resolveFrom_sharedEntries :
    sharedEntries.Distinct ∧
      ∃ b, rootFinder.resolveFrom oneFile reactOutside sharedEntries = .ok b ∧
        rootFinder.ViewsAgree oneFile b ∧ b.modules.keys = ["main"] ∧
        (rootFinder.locationsOf oneFile b.normalized).files = [⟨"/a.js"⟩] := by
  have hgiven : sharedEntries.Distinct := by
    unfold sharedEntries GivenEntries.Distinct
    decide
  have hchunks : rootFinder.chunkLists oneFile reactOutside sharedEntries =
      .ok [("main", ["./a", "react", "./a.js"]), ("vendor", ["react"])] := by
    rfl
  have hsettles : ∀ chunk ∈ [("main", ["./a", "react", "./a.js"]), ("vendor", ["react"])],
      ∀ specifier ∈ chunk.2, rootFinder.Settles oneFile reactOutside specifier := by
    decide +kernel
  have htypes : rootFinder.ValidTypes := List.forall_mem_nil _
  obtain ⟨b, hb⟩ := exists_resolveFrom htypes hchunks hsettles
  have hnormalized : b.normalized = [("main", ["./a", "./a.js"])] :=
    (resolveFrom_eq_ok hchunks hb).1.trans (by decide +kernel)
  have hagree := resolveFrom_viewsAgree hgiven hb
  refine ⟨hgiven, b, hb, hagree, ?_, ?_⟩
  · rw [hagree.names, hnormalized]
    rfl
  · rw [hnormalized]
    decide +kernel

end EntryFinder

end BundleConfig
