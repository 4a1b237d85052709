import BundleConfig.Proofs.Entry.Classification

/-!
# What becomes of a given specifier

A given specifier is *accounted for* when its file is recorded for its chunk or, if it
has no file, when it is external or names a directory of which a file is recorded.

Expansion asks whether a specifier names a directory before the resolver is asked, and
goes by it alone.  What it puts in the place of a directory is settled file by file.
The directory itself is accounted for when it has a file that is found again under the
specifier it is listed by, and when this is the file of the directory, if that has one.
A directory without files is dropped, and so is a file beside a directory of its name.
-/

namespace BundleConfig

namespace BundleEntries

/-- Some module of a chunk has the file. -/
def Records (b : BundleEntries) (name : String) (p : Path) : Prop :=
  ∃ ms, (name, ms) ∈ b.modules ∧ ∃ m ∈ ms, m.file = some p

end BundleEntries

namespace EntryFinder

variable {f : EntryFinder} {fs : FileSystem} {s : EntrySettings} {given : GivenEntries}
  {b : BundleEntries} {name specifier : String} {specifiers : List String} {p : Path}

/-- The file of a specifier is recorded, or the specifier is external. -/
def Settled (f : EntryFinder) (fs : FileSystem) (b : BundleEntries) (name specifier : String) :
    Prop :=
  (∀ p, f.resolver.resolve fs specifier = some p → b.Records name p) ∧
    (f.resolver.resolve fs specifier = none → specifier ∈ b.external)

/-- The file of a specifier is recorded.  If it has none, it is external or names a
directory of which a file is recorded. -/
def Accounted (f : EntryFinder) (fs : FileSystem) (b : BundleEntries) (name specifier : String) :
    Prop :=
  (∀ p, f.resolver.resolve fs specifier = some p → b.Records name p) ∧
    (f.resolver.resolve fs specifier = none → specifier ∈ b.external ∨
      ∃ directory, f.namedDirectory? fs specifier = some directory ∧
        ∃ q ∈ fs.walk (f.keeps fs) directory, b.Records name q)

theorem Settled.accounted (h : f.Settled fs b name specifier) : f.Accounted fs b name specifier :=
  ⟨h.1, fun hnone => .inl (h.2 hnone)⟩

/-! ## Recorded files -/

variable {chunks : Chunks}

/-- A module of the bundle is one of the modules it is made of. -/
theorem mem_of_mem_bundle_modules {modules : Table (List EntryModule)} {ms : List EntryModule}
    {m : EntryModule} (hm : m ∈ ms) (hmem : (name, ms) ∈ (bundle s given modules).modules) :
    (name, ms) ∈ modules := by
  rcases List.mem_append.mp hmem with hkept | hmissing
  · exact (List.mem_filter.mp hkept).1
  · obtain ⟨chunk, -, heq⟩ := List.mem_map.mp hmissing
    cases heq
    cases hm

/-- A chunk with an internal module is kept. -/
theorem mem_bundle_modules {modules : Table (List EntryModule)} {ms : List EntryModule}
    {m : EntryModule} (hm : m ∈ ms) (hfile : m.file = some p) :
    (name, ms) ∈ (bundle s given modules).modules ↔ (name, ms) ∈ modules := by
  have hrequest : m.request ∈ internalRequests ms :=
    List.mem_map_of_mem (List.mem_filter.mpr ⟨hm, by rw [EntryModule.isInternal, hfile]; rfl⟩)
  constructor
  · exact mem_of_mem_bundle_modules hm
  · intro hmem
    refine List.mem_append_left _ (List.mem_filter.mpr ⟨hmem, ?_⟩)
    have hnormalized : (name, internalRequests ms) ∈
        Chunks.dropEmpty (modules.mapValues internalRequests) :=
      (Chunks.mem_dropEmpty (List.ne_nil_of_mem hrequest)).mpr
        (Table.mem_mapValues.mpr ⟨ms, hmem, rfl⟩)
    exact Table.contains_iff.mpr (List.mem_map_of_mem hnormalized)

/-- The modules of a chunk are those of a list of specifiers. -/
def AreModulesOf (f : EntryFinder) (fs : FileSystem) (ms : List EntryModule)
    (specifiers : List String) : Prop :=
  (Specifier.distinct specifiers).map (fun specifier =>
      (specifier, f.resolver.resolve fs specifier)) =
    ms.map fun m => (m.request, m.file)

theorem AreModulesOf.mem {ms : List EntryModule} (h : f.AreModulesOf fs ms specifiers)
    {m : EntryModule} (hm : m ∈ ms) :
    m.request ∈ specifiers ∧ f.resolver.resolve fs m.request = m.file := by
  have hpair : (m.request, m.file) ∈ ms.map fun m => (m.request, m.file) := List.mem_map_of_mem hm
  rw [← h] at hpair
  obtain ⟨specifier, hspecifier, heq⟩ := List.mem_map.mp hpair
  obtain ⟨rfl, hfile⟩ := Prod.mk.inj heq
  exact ⟨Specifier.mem_distinct.mp hspecifier, hfile⟩

theorem AreModulesOf.exists_mem {ms : List EntryModule} (h : f.AreModulesOf fs ms specifiers)
    (hspecifier : specifier ∈ specifiers) :
    ∃ m ∈ ms, m.file = f.resolver.resolve fs specifier := by
  have hpair := List.mem_map_of_mem (f := fun specifier =>
    (specifier, f.resolver.resolve fs specifier)) (Specifier.mem_distinct.mpr hspecifier)
  rw [h] at hpair
  obtain ⟨m, hm, heq⟩ := List.mem_map.mp hpair
  exact ⟨m, hm, (Prod.mk.inj heq).2⟩

theorem mem_modulesOf {modules : Table (List EntryModule)}
    (h : f.modulesOf fs s chunks = .ok modules) :
    (∀ ms, (name, ms) ∈ modules →
      ∃ specifiers, (name, specifiers) ∈ chunks ∧ f.AreModulesOf fs ms specifiers) ∧
      ∀ specifiers, (name, specifiers) ∈ chunks →
        ∃ ms, (name, ms) ∈ modules ∧ f.AreModulesOf fs ms specifiers := by
  have heq := modulesOf_eq_ok h
  constructor
  · intro ms hmem
    have hentry := List.mem_map_of_mem (f := fun entry : String × List EntryModule =>
      (entry.1, entry.2.map fun m => (m.request, m.file))) hmem
    rw [heq] at hentry
    obtain ⟨⟨other, specifiers⟩, hchunk, hpair⟩ := List.mem_map.mp hentry
    obtain ⟨rfl, hmodules⟩ := Prod.mk.inj hpair
    exact ⟨specifiers, hchunk, hmodules⟩
  · intro specifiers hchunk
    have hentry := List.mem_map_of_mem (f := fun chunk : String × List String =>
      (chunk.1, (Specifier.distinct chunk.2).map fun specifier =>
        (specifier, f.resolver.resolve fs specifier))) hchunk
    rw [← heq] at hentry
    obtain ⟨⟨other, ms⟩, hmem, hpair⟩ := List.mem_map.mp hentry
    obtain ⟨rfl, hmodules⟩ := Prod.mk.inj hpair
    exact ⟨ms, hmem, hmodules.symm⟩

/-- The recorded files are those of the specifiers that are looked up. -/
theorem records_iff (h : f.chunkLists fs s given = .ok chunks)
    (hb : f.resolveFrom fs s given = .ok b) :
    b.Records name p ↔ ∃ specifiers, (name, specifiers) ∈ chunks ∧
      ∃ specifier ∈ specifiers, f.resolver.resolve fs specifier = some p := by
  rw [resolveFrom_of_chunkLists h] at hb
  obtain ⟨modules, hmodules, rfl⟩ := map_eq_ok.mp hb
  constructor
  · rintro ⟨ms, hmem, m, hm, hfile⟩
    obtain ⟨specifiers, hchunk, hof⟩ :=
      (mem_modulesOf hmodules).1 ms ((mem_bundle_modules hm hfile).mp hmem)
    obtain ⟨hrequest, hresolve⟩ := hof.mem hm
    exact ⟨specifiers, (Chunks.mem_dropEmpty (List.ne_nil_of_mem hrequest)).mp hchunk, m.request,
      hrequest, hresolve.trans hfile⟩
  · rintro ⟨specifiers, hchunk, specifier, hspecifier, hfile⟩
    obtain ⟨ms, hmem, hof⟩ := (mem_modulesOf hmodules).2 specifiers
      ((Chunks.mem_dropEmpty (List.ne_nil_of_mem hspecifier)).mpr hchunk)
    obtain ⟨m, hm, hresolve⟩ := hof.exists_mem hspecifier
    have hm' : m.file = some p := hresolve.trans hfile
    exact ⟨ms, (mem_bundle_modules hm hm').mpr hmem, m, hm, hm'⟩

/-- The file of a module is the one its request resolves to. -/
theorem resolve_request (hb : f.resolveFrom fs s given = .ok b) {ms : List EntryModule}
    (hmem : (name, ms) ∈ b.modules) {m : EntryModule} (hm : m ∈ ms) (hfile : m.file = some p) :
    f.resolver.resolve fs m.request = some p := by
  obtain ⟨chunks, -, hb⟩ := bind_eq_ok.mp hb
  obtain ⟨modules, hmodules, hb⟩ := bind_eq_ok.mp hb
  cases hb
  obtain ⟨specifiers, -, hof⟩ :=
    (mem_modulesOf hmodules).1 ms ((mem_bundle_modules hm hfile).mp hmem)
  exact (hof.mem hm).2.trans hfile

/-- Every specifier that is looked up settles. -/
theorem settled_of_mem (h : f.chunkLists fs s given = .ok chunks)
    (hb : f.resolveFrom fs s given = .ok b) (hchunk : (name, specifiers) ∈ chunks)
    (hspecifier : specifier ∈ specifiers) : f.Settled fs b name specifier := by
  refine ⟨fun p hp => (records_iff h hb).mpr ⟨specifiers, hchunk, specifier, hspecifier, hp⟩,
    fun hnone => (mem_external h hb).mpr ⟨?_, (name, specifiers), hchunk, hspecifier⟩⟩
  rw [hasFile, hnone]
  rfl

/-- Where every specifier that is looked up settles there is a bundle. -/
theorem exists_resolveFrom (htypes : f.ValidTypes) (h : f.chunkLists fs s given = .ok chunks)
    (hsettles : ∀ chunk ∈ chunks, ∀ specifier ∈ chunk.2, f.Settles fs s specifier) :
    ∃ b, f.resolveFrom fs s given = .ok b :=
  fault?_eq_none_iff.mp
    ((fault?_resolveFrom htypes h).trans (firstFault?_eq_none_iff.mpr hsettles))

/-! ## Given specifiers -/

/-- What is looked up for a chunk of given entries. -/
theorem exists_chunkLists_given (f : EntryFinder) (fs : FileSystem) (s : EntrySettings)
    (hgiven : given.isDiscovered = false) (hchunk : (name, specifiers) ∈ given.normalize) :
    ∃ chunks, f.chunkLists fs s given = .ok chunks ∧ ∃ looked, (name, looked) ∈ chunks ∧
      ∀ specifier ∈ specifiers,
        s.excluded.any (excludes fs f.resolver.context specifier) = false →
          ∀ t ∈ f.expand fs specifier, t ∈ looked := by
  refine ⟨f.expandAll fs (f.dropExcluded fs s given.normalize), ?_, ?_⟩
  · rw [chunkLists, entriesOf, hgiven]
    rfl
  · refine ⟨_, Table.mem_mapValues.mpr ⟨_, Table.mem_mapValues.mpr ⟨specifiers, hchunk, rfl⟩,
      rfl⟩, fun specifier hspecifier hkept t ht => ?_⟩
    refine List.mem_flatMap.mpr ⟨specifier, List.mem_filter.mpr ⟨hspecifier, ?_⟩, ht⟩
    rw [hkept]
    rfl

/-- What a given specifier expands to settles.  The specifier is accounted for unless
it names a directory, and then it is if a file in the directory is found under the
specifier it is listed by and is the file of the given specifier, if that has one. -/
theorem resolveFrom_accounts (hgiven : given.isDiscovered = false)
    (hb : f.resolveFrom fs s given = .ok b) (hchunk : (name, specifiers) ∈ given.normalize)
    (hspecifier : specifier ∈ specifiers)
    (hkept : s.excluded.any (excludes fs f.resolver.context specifier) = false) :
    (∀ t ∈ f.expand fs specifier, f.Settled fs b name t) ∧
      ((∀ directory, f.namedDirectory? fs specifier = some directory →
        ∃ q ∈ fs.walk (f.keeps fs) directory,
          f.resolver.resolve fs (specifierOf f.resolver.context q) = some q ∧
            ∀ p, f.resolver.resolve fs specifier = some p → p = q) →
        f.Accounted fs b name specifier) := by
  obtain ⟨chunks, hchunks, looked, hlooked, hexpanded⟩ :=
    exists_chunkLists_given f fs s hgiven hchunk
  have hsettled : ∀ t ∈ f.expand fs specifier, f.Settled fs b name t := fun t ht =>
    settled_of_mem hchunks hb hlooked (hexpanded specifier hspecifier hkept t ht)
  refine ⟨hsettled, fun hdirectory => ?_⟩
  cases hnamed : f.namedDirectory? fs specifier with
  | none =>
      refine (hsettled specifier ?_).accounted
      rw [expand, hnamed]
      exact List.mem_singleton_self _
  | some directory =>
      obtain ⟨q, hq, hfound, hsame⟩ := hdirectory directory hnamed
      have hrecords : b.Records name q := by
        refine (hsettled (specifierOf f.resolver.context q) ?_).1 q hfound
        rw [expand, hnamed]
        exact List.mem_map_of_mem hq
      exact ⟨fun p hp => hsame p hp ▸ hrecords, fun _ => .inr ⟨directory, hnamed, q, hq, hrecords⟩⟩

/-- A directory with a main file, an empty one, and one beside a file of its name. -/
def directories : FileSystem :=
  ⟨[("page", .directory [("index.js", .file .empty)]), ("empty", .directory []),
    ("widget", .directory [("part.js", .file .empty)]), ("widget.js", .file .empty)], ⟨"/"⟩⟩

/-- A finder that knows main files and no module directories. -/
def mainFileFinder : EntryFinder :=
  ofResolver { Resolver.ofContext directories ⟨"/"⟩ with moduleDirectories := [] } []

theorem validTypes_mainFileFinder : mainFileFinder.ValidTypes := List.forall_mem_nil _

/-- The directory with a main file is accounted for by that file. -/
theorem resolveFrom_page :
    ∃ b, mainFileFinder.resolveFrom directories {} (.list ["./page"]) = .ok b ∧
      mainFileFinder.Accounted directories b "index" "./page" ∧
      b.Records "index" ⟨"/page/index.js"⟩ := by
  have hnamed : mainFileFinder.namedDirectory? directories "./page" = some ⟨"/page"⟩ := by
    decide +kernel
  have hwalk : directories.walk (mainFileFinder.keeps directories) ⟨"/page"⟩ =
      [⟨"/page/index.js"⟩] := by
    decide +kernel
  have hfile : mainFileFinder.resolver.resolve directories "./page" =
      some ⟨"/page/index.js"⟩ := by
    decide +kernel
  have hfound : mainFileFinder.resolver.resolve directories "./page/index.js" =
      some ⟨"/page/index.js"⟩ := by
    decide +kernel
  have hexpand : mainFileFinder.expand directories "./page" = ["./page/index.js"] := by
    decide +kernel
  have hchunks : mainFileFinder.chunkLists directories {} (.list ["./page"]) =
      .ok [("index", mainFileFinder.expand directories "./page" ++ [])] := rfl
  rw [hexpand] at hchunks
  obtain ⟨b, hb⟩ := exists_resolveFrom validTypes_mainFileFinder hchunks
    (List.forall_mem_singleton.mpr (List.forall_mem_singleton.mpr
      (.inl (by rw [hasFile, hfound]; rfl))))
  have haccounted := (resolveFrom_accounts rfl hb (List.mem_singleton_self _)
    (List.mem_singleton_self _) rfl).2 fun directory hdirectory => by
      rw [hnamed] at hdirectory
      cases hdirectory
      refine ⟨⟨"/page/index.js"⟩, hwalk ▸ List.mem_singleton_self _, hfound, fun p hp => ?_⟩
      exact Option.some.inj (hp.symm.trans hfile)
  exact ⟨b, hb, haccounted, haccounted.1 _ hfile⟩

/-- The empty directory leaves nothing, and neither does the file beside a directory of its
name. -/
theorem resolveFrom_empty_and_widget :
    ∃ b, mainFileFinder.resolveFrom directories {} (.list ["./empty", "./widget"]) = .ok b ∧
      (mainFileFinder.resolver.resolve directories "./empty" = none ∧
        ¬ mainFileFinder.Accounted directories b "index" "./empty") ∧
      mainFileFinder.resolver.resolve directories "./widget" = some ⟨"/widget.js"⟩ ∧
        ¬ mainFileFinder.Accounted directories b "index" "./widget" := by
  have hempty : mainFileFinder.resolver.resolve directories "./empty" = none := by
    decide +kernel
  have hwidget : mainFileFinder.resolver.resolve directories "./widget" =
      some ⟨"/widget.js"⟩ := by
    decide +kernel
  have hpart : mainFileFinder.resolver.resolve directories "./widget/part.js" =
      some ⟨"/widget/part.js"⟩ := by
    decide +kernel
  have hnamed : mainFileFinder.namedDirectory? directories "./empty" = some ⟨"/empty"⟩ := by
    decide +kernel
  have hwalk : directories.walk (mainFileFinder.keeps directories) ⟨"/empty"⟩ = [] := by
    decide +kernel
  have hexpand : mainFileFinder.expandAll directories [("index", ["./empty", "./widget"])] =
      [("index", ["./widget/part.js"])] := by
    decide +kernel
  have hchunks : mainFileFinder.chunkLists directories {} (.list ["./empty", "./widget"]) =
      .ok [("index", ["./widget/part.js"])] := by
    rw [← hexpand]
    rfl
  obtain ⟨b, hb⟩ := exists_resolveFrom validTypes_mainFileFinder hchunks
    (List.forall_mem_singleton.mpr (List.forall_mem_singleton.mpr
      (.inl (by rw [hasFile, hpart]; rfl))))
  refine ⟨b, hb, ⟨hempty, fun haccounted => ?_⟩, hwidget, fun haccounted => ?_⟩
  · rcases haccounted.2 hempty with hexternal | ⟨directory, hdirectory, q, hq, -⟩
    · obtain ⟨-, chunk, hchunk, hmem⟩ := (mem_external hchunks hb).mp hexternal
      obtain rfl := List.mem_singleton.mp hchunk
      exact absurd (List.mem_singleton.mp hmem) (by decide)
    · rw [hnamed] at hdirectory
      cases hdirectory
      rw [hwalk] at hq
      cases hq
  · obtain ⟨specifiers, hchunk, specifier, hmem, hfile⟩ :=
      (records_iff hchunks hb).mp (haccounted.1 _ hwidget)
    cases List.mem_singleton.mp hchunk
    rw [List.mem_singleton.mp hmem, hpart] at hfile
    exact absurd hfile (by decide)

end EntryFinder

end BundleConfig
