import BundleConfig.Proofs.Entry.Chunks

/-!
# Nothing is dropped

Every specifier of the entries is looked up once for each chunk.  It *settles* when
it has a file or may be external, and the first one that does not settle is the
fault.  A specifier that has a file goes to the normalized list of its chunk, and
every other one to the external specifiers.

`fault?_resolveFrom` describes the fault as a search through all specifiers, since
neither dropping repetitions nor dropping empty chunks changes what such a search
finds first.  `resolveFrom_eq_ok` gives the two outputs as filters of the lists.
-/

namespace BundleConfig

namespace EntryFinder

variable {f : EntryFinder} {fs : FileSystem} {s : EntrySettings} {given : GivenEntries}

/-- Whether a specifier has a file. -/
def hasFile (f : EntryFinder) (fs : FileSystem) (specifier : String) : Bool :=
  (f.resolver.resolve fs specifier).isSome

/-- A specifier has a file, or some include selector and no exclude selector is about
it. -/
def Settles (f : EntryFinder) (fs : FileSystem) (s : EntrySettings) (specifier : String) : Prop :=
  f.hasFile fs specifier = true ∨
    (∃ selector ∈ s.externalSelectors, selector.selects specifier = true) ∧
      ∀ selector ∈ s.internalSelectors, selector.selects specifier = false

/-- The pattern of every build type is one. -/
def ValidTypes (f : EntryFinder) : Prop :=
  ∀ entry ∈ f.buildTypes, ∃ pattern, entry.2.pattern = .ok pattern

/-! ## One module -/

theorem settles_iff {specifier : String} :
    f.Settles fs s specifier ↔
      f.hasFile fs specifier = true ∨ s.allowsExternal specifier = true := by
  simp [Settles, EntrySettings.allowsExternal, Selector.anySelects]

instance (specifier : String) : Decidable (f.Settles fs s specifier) :=
  decidable_of_iff _ settles_iff.symm

theorem exists_firstByPattern (p : Path) : ∀ {types : Table BuildType},
    (∀ entry ∈ types, ∃ pattern, entry.2.pattern = .ok pattern) →
      ∃ name, BuildType.firstByPattern p types = .ok name
  | [], _ => ⟨none, rfl⟩
  | (name, t) :: rest, h => by
      obtain ⟨hpattern, hrest⟩ := List.forall_mem_cons.mp h
      obtain ⟨pattern, hpattern⟩ := hpattern
      obtain ⟨found, hfound⟩ := exists_firstByPattern p hrest
      rw [BuildType.firstByPattern, hpattern]
      cases pattern with
      | none => exact ⟨found, hfound⟩
      | some expression =>
          by_cases hmatch : expression.matchesIn p.text = true
          · exact ⟨some name, if_pos hmatch⟩
          · exact ⟨found, (if_neg hmatch).trans hfound⟩

/-- Where all patterns are valid every path has a build type or none. -/
theorem exists_ofPath (h : f.ValidTypes) (p : Path) :
    ∃ name, BuildType.ofPath f.buildTypes p = .ok name := by
  obtain ⟨found, hfound⟩ := exists_firstByPattern p h
  unfold BuildType.ofPath
  split
  · exact ⟨none, rfl⟩
  · rw [hfound]
    cases found <;> exact ⟨_, rfl⟩

/-- The module of a specifier carries the specifier and is internal when it has a
file. -/
theorem moduleOf_eq_ok {chunk specifier : String} {m : EntryModule}
    (h : f.moduleOf fs s chunk specifier = .ok m) :
    m.request = specifier ∧ m.file = f.resolver.resolve fs specifier := by
  unfold moduleOf at h
  split at h
  next p hp =>
    obtain ⟨assetType, -, rfl⟩ := map_eq_ok.mp h
    exact ⟨rfl, hp.symm⟩
  next hnone =>
    split at h
    · cases h
      exact ⟨rfl, hnone.symm⟩
    · cases h

/-- The module of a specifier fails when the specifier does not settle, and only then. -/
theorem fault?_moduleOf (htypes : f.ValidTypes) (chunk specifier : String) :
    fault? (f.moduleOf fs s chunk specifier) =
      if f.Settles fs s specifier then none else some (.unresolvable specifier chunk) := by
  unfold moduleOf
  cases hfile : f.resolver.resolve fs specifier with
  | some p =>
      obtain ⟨name, hname⟩ := exists_ofPath htypes p
      have hsettles : f.Settles fs s specifier := .inl (by rw [hasFile, hfile]; rfl)
      rw [if_pos hsettles]
      exact congrArg (fun found => fault? (Except.map _ found)) hname
  | none =>
      have hnone : ¬ f.hasFile fs specifier = true := by rw [hasFile, hfile]; exact nofun
      by_cases hexternal : s.allowsExternal specifier = true
      · rw [if_pos (settles_iff.mpr (.inr hexternal))]
        exact congrArg fault? (if_pos hexternal)
      · rw [if_neg (settles_iff.not.mpr (not_or.mpr ⟨hnone, hexternal⟩))]
        exact congrArg fault? (if_neg hexternal)

/-! ## All modules -/

/-- The fault of the first specifier that does not settle. -/
def firstFault? (f : EntryFinder) (fs : FileSystem) (s : EntrySettings) (chunks : Chunks) :
    Option ConfigError :=
  chunks.findSome? fun chunk => chunk.2.findSome? fun specifier =>
    if f.Settles fs s specifier then none else some (.unresolvable specifier chunk.1)

theorem fault?_modulesOf (htypes : f.ValidTypes) (chunks : Chunks) :
    fault? (f.modulesOf fs s chunks) = f.firstFault? fs s chunks := by
  have hchunk : ∀ chunk : String × List String,
      fault? (((Specifier.distinct chunk.2).mapM (f.moduleOf fs s chunk.1)).map
          fun modules => (chunk.1, modules)) =
        chunk.2.findSome? fun specifier =>
          if f.Settles fs s specifier then none else some (.unresolvable specifier chunk.1) := by
    intro chunk
    rw [fault?_map, fault?_mapM, Specifier.findSome?_distinct]
    exact congrArg (List.findSome? · _) (funext (fault?_moduleOf htypes chunk.1))
  rw [modulesOf, fault?_mapM, firstFault?]
  exact congrArg (List.findSome? · _) (funext hchunk)

/-- Which module belongs to a specifier, as far as the outputs are concerned. -/
theorem modulesOf_eq_ok {chunks : Chunks} {modules : Table (List EntryModule)}
    (h : f.modulesOf fs s chunks = .ok modules) :
    modules.map (fun entry => (entry.1, entry.2.map fun m => (m.request, m.file))) =
      chunks.map fun chunk => (chunk.1, (Specifier.distinct chunk.2).map fun specifier =>
        (specifier, f.resolver.resolve fs specifier)) := by
  refine map_eq_map_of_mapM (fun chunk entry hentry => ?_) h
  obtain ⟨ms, hms, rfl⟩ := map_eq_ok.mp hentry
  refine congrArg (Prod.mk chunk.1) (map_eq_map_of_mapM (fun specifier m hm => ?_) hms)
  obtain ⟨hrequest, hfile⟩ := moduleOf_eq_ok hm
  rw [hrequest, hfile]

theorem mapValues_internalRequests {chunks : Chunks} {modules : Table (List EntryModule)}
    (h : f.modulesOf fs s chunks = .ok modules) :
    modules.mapValues internalRequests =
      chunks.mapValues fun specifiers => (Specifier.distinct specifiers).filter (f.hasFile fs) := by
  have heq := congrArg (List.map fun entry : String × List (String × Option Path) =>
    (entry.1, (entry.2.filter (·.2.isSome)).map (·.1))) (modulesOf_eq_ok h)
  simp only [List.map_map, Function.comp_def, List.filter_map, List.map_id'] at heq
  exact heq

theorem flatMap_externalRequests {chunks : Chunks} {modules : Table (List EntryModule)}
    (h : f.modulesOf fs s chunks = .ok modules) :
    modules.values.flatMap externalRequests =
      chunks.values.flatMap fun specifiers =>
        (Specifier.distinct specifiers).filter (!f.hasFile fs ·) := by
  have heq := congrArg (List.flatMap fun entry : String × List (String × Option Path) =>
    (entry.2.filter (!·.2.isSome)).map (·.1)) (modulesOf_eq_ok h)
  simp only [List.flatMap_map, List.filter_map, List.map_map, Function.comp_def,
    List.map_id'] at heq
  rw [Table.values, Table.values, List.flatMap_map, List.flatMap_map]
  exact heq

/-! ## The bundle -/

variable {chunks : Chunks}

theorem resolveFrom_of_chunkLists (h : f.chunkLists fs s given = .ok chunks) :
    f.resolveFrom fs s given =
      (f.modulesOf fs s chunks.dropEmpty).map (bundle s given) := by
  rw [resolveFrom, h]
  cases hmodules : f.modulesOf fs s chunks.dropEmpty <;>
    simp [hmodules, bind, Except.bind, pure, Except.pure, Except.map]

theorem fault?_resolveFrom (htypes : f.ValidTypes) (h : f.chunkLists fs s given = .ok chunks) :
    fault? (f.resolveFrom fs s given) = f.firstFault? fs s chunks := by
  rw [resolveFrom_of_chunkLists h, fault?_map, fault?_modulesOf htypes]
  exact Chunks.findSome?_dropEmpty (fun name specifier =>
    if f.Settles fs s specifier then none else some (ConfigError.unresolvable specifier name))
    chunks

theorem resolveFrom_eq_ok (h : f.chunkLists fs s given = .ok chunks) {b : BundleEntries}
    (hb : f.resolveFrom fs s given = .ok b) :
    b.normalized = Chunks.dropEmpty (chunks.dropEmpty.mapValues fun specifiers =>
        (Specifier.distinct specifiers).filter (f.hasFile fs)) ∧
      b.external = Specifier.distinct (chunks.dropEmpty.values.flatMap fun specifiers =>
        (Specifier.distinct specifiers).filter (!f.hasFile fs ·)) := by
  rw [resolveFrom_of_chunkLists h] at hb
  obtain ⟨modules, hmodules, rfl⟩ := map_eq_ok.mp hb
  exact ⟨congrArg Chunks.dropEmpty (mapValues_internalRequests hmodules),
    congrArg Specifier.distinct (flatMap_externalRequests hmodules)⟩

theorem keys_chunkLists_nodup (hgiven : given.Distinct)
    (h : f.chunkLists fs s given = .ok chunks) : chunks.keys.Nodup := by
  obtain ⟨entries, hentries, rfl⟩ := map_eq_ok.mp h
  rw [expandAll, dropExcluded, Table.keys_mapValues, Table.keys_mapValues]
  unfold entriesOf at hentries
  split at hentries
  · exact keys_discover_nodup hentries
  · cases hentries
    exact GivenEntries.keys_normalize_nodup hgiven

/-- A chunk with specifiers that have files is normalized to them. -/
theorem get?_normalized (hgiven : given.Distinct) (h : f.chunkLists fs s given = .ok chunks)
    {b : BundleEntries} (hb : f.resolveFrom fs s given = .ok b) {name : String}
    {specifiers : List String} (hmem : (name, specifiers) ∈ chunks) {l : List String}
    (hl : l ≠ []) :
    b.normalized.get? name = some l ↔
      l = (Specifier.distinct specifiers).filter (f.hasFile fs) := by
  have hkeys := keys_chunkLists_nodup hgiven h
  have hnormalized : b.normalized.keys.Nodup := by
    rw [(resolveFrom_eq_ok h hb).1]
    refine Chunks.keys_dropEmpty_nodup ?_
    rw [Table.keys_mapValues]
    exact Chunks.keys_dropEmpty_nodup hkeys
  rw [Table.get?_eq_some_iff hnormalized, (resolveFrom_eq_ok h hb).1, Chunks.mem_dropEmpty hl,
    Table.mem_mapValues]
  constructor
  · rintro ⟨specifiers', hmem', rfl⟩
    have hne : specifiers' ≠ [] := by
      rintro rfl
      exact hl rfl
    have hmem' := (Chunks.mem_dropEmpty hne).mp hmem'
    have heq := (Table.get?_eq_some_iff hkeys).mpr hmem'
    rw [(Table.get?_eq_some_iff hkeys).mpr hmem] at heq
    rw [Option.some.inj heq]
  · rintro rfl
    refine ⟨specifiers, (Chunks.mem_dropEmpty ?_).mpr hmem, rfl⟩
    rintro rfl
    exact hl rfl

theorem mem_external (h : f.chunkLists fs s given = .ok chunks) {b : BundleEntries}
    (hb : f.resolveFrom fs s given = .ok b) {specifier : String} :
    specifier ∈ b.external ↔
      f.hasFile fs specifier = false ∧ ∃ chunk ∈ chunks, specifier ∈ chunk.2 := by
  rw [(resolveFrom_eq_ok h hb).2, Specifier.mem_distinct, Table.values, List.flatMap_map]
  simp only [List.mem_flatMap, List.mem_filter, Specifier.mem_distinct, Bool.not_eq_true']
  constructor
  · rintro ⟨⟨name, specifiers⟩, hmem, hspecifier, hfile⟩
    have hne : specifiers ≠ [] := List.ne_nil_of_mem hspecifier
    exact ⟨hfile, _, (Chunks.mem_dropEmpty hne).mp hmem, hspecifier⟩
  · rintro ⟨hfile, ⟨name, specifiers⟩, hmem, hspecifier⟩
    have hne : specifiers ≠ [] := List.ne_nil_of_mem hspecifier
    exact ⟨_, (Chunks.mem_dropEmpty hne).mpr hmem, hspecifier, hfile⟩

/-- No specifier without a file is normalized. -/
theorem hasFile_of_mem_normalized (h : f.chunkLists fs s given = .ok chunks) {b : BundleEntries}
    (hb : f.resolveFrom fs s given = .ok b) {l : List String} (hl : l ∈ b.normalized.values)
    {specifier : String} (hmem : specifier ∈ l) : f.hasFile fs specifier = true := by
  obtain ⟨⟨name, l⟩, hentry, rfl⟩ := List.mem_map.mp hl
  rw [(resolveFrom_eq_ok h hb).1, Chunks.mem_dropEmpty (List.ne_nil_of_mem hmem),
    Table.mem_mapValues] at hentry
  obtain ⟨specifiers, -, rfl⟩ := hentry
  exact (List.mem_filter.mp hmem).2

theorem firstFault?_eq_none_iff :
    f.firstFault? fs s chunks = none ↔
      ∀ chunk ∈ chunks, ∀ specifier ∈ chunk.2, f.Settles fs s specifier := by
  simp [firstFault?, List.findSome?_eq_none_iff]

theorem firstFault?_eq_some_iff {e : ConfigError} :
    f.firstFault? fs s chunks = some e ↔
      ∃ before name earlier specifier later after,
        chunks = before ++ (name, earlier ++ specifier :: later) :: after ∧
          (∀ chunk ∈ before, ∀ other ∈ chunk.2, f.Settles fs s other) ∧
          (∀ other ∈ earlier, f.Settles fs s other) ∧ ¬ f.Settles fs s specifier ∧
          e = .unresolvable specifier name := by
  rw [firstFault?, List.findSome?_eq_some_iff]
  constructor
  · rintro ⟨before, ⟨name, specifiers⟩, after, rfl, hfault, hbefore⟩
    obtain ⟨earlier, specifier, later, rfl, hspecifier, hearlier⟩ :=
      List.findSome?_eq_some_iff.mp hfault
    by_cases hsettles : f.Settles fs s specifier
    · rw [if_pos hsettles] at hspecifier
      cases hspecifier
    · rw [if_neg hsettles] at hspecifier
      refine ⟨before, name, earlier, specifier, later, after, rfl, ?_, ?_, hsettles,
        (Option.some.inj hspecifier).symm⟩
      · intro chunk hchunk other hother
        have hnone := List.findSome?_eq_none_iff.mp (hbefore chunk hchunk) other hother
        by_contra hnot
        rw [if_neg hnot] at hnone
        cases hnone
      · intro other hother
        have hnone := hearlier other hother
        by_contra hnot
        rw [if_neg hnot] at hnone
        cases hnone
  · rintro ⟨before, name, earlier, specifier, later, after, rfl, hbefore, hearlier, hnot, rfl⟩
    refine ⟨before, (name, earlier ++ specifier :: later), after, rfl,
      List.findSome?_eq_some_iff.mpr ⟨earlier, specifier, later, rfl, if_neg hnot,
        fun other hother => if_pos (hearlier other hother)⟩, fun chunk hchunk => ?_⟩
    exact List.findSome?_eq_none_iff.mpr fun other hother =>
      if_pos (hbefore chunk hchunk other hother)

/-- The entries resolve exactly when every specifier settles, and else the first one
that does not is the fault.  Every specifier with a file stands once in the
normalized list of its chunk, in the order of first occurrences, and every other one
stands once among the external specifiers.  None stands in both. -/
theorem resolveFrom_drops_nothing (f : EntryFinder) (fs : FileSystem) (s : EntrySettings)
    (given : GivenEntries) (hgiven : given.Distinct) (htypes : f.ValidTypes) :
    (∀ e, f.chunkLists fs s given = .error e → f.resolveFrom fs s given = .error e) ∧
    ∀ chunks, f.chunkLists fs s given = .ok chunks →
      ((∃ b, f.resolveFrom fs s given = .ok b) ↔
        ∀ chunk ∈ chunks, ∀ specifier ∈ chunk.2, f.Settles fs s specifier) ∧
      (∀ e, f.resolveFrom fs s given = .error e ↔
        ∃ before name earlier specifier later after,
          chunks = before ++ (name, earlier ++ specifier :: later) :: after ∧
            (∀ chunk ∈ before, ∀ other ∈ chunk.2, f.Settles fs s other) ∧
            (∀ other ∈ earlier, f.Settles fs s other) ∧ ¬ f.Settles fs s specifier ∧
            e = .unresolvable specifier name) ∧
      ∀ b, f.resolveFrom fs s given = .ok b → ∀ name specifiers, (name, specifiers) ∈ chunks →
        (∀ specifier ∈ specifiers, f.hasFile fs specifier = true →
          ∃ l, b.normalized.get? name = some l ∧ l.count specifier = 1 ∧
            specifier ∉ b.external) ∧
        (∀ specifier ∈ specifiers, f.hasFile fs specifier = false →
          b.external.count specifier = 1 ∧ ∀ l ∈ b.normalized.values, specifier ∉ l) ∧
        ∀ l, b.normalized.get? name = some l →
          (∀ specifier ∈ l, specifier ∈ specifiers ∧ f.hasFile fs specifier = true) ∧
            l.Pairwise fun a b => specifiers.idxOf a < specifiers.idxOf b := by
  refine ⟨fun e he => by rw [resolveFrom, he]; rfl, fun chunks h => ⟨?_, fun e => ?_, ?_⟩⟩
  · rw [← fault?_eq_none_iff, fault?_resolveFrom htypes h, firstFault?_eq_none_iff]
  · rw [← fault?_eq_some_iff, fault?_resolveFrom htypes h, firstFault?_eq_some_iff]
  intro b hb name specifiers hmem
  refine ⟨fun specifier hspecifier hfile => ?_, fun specifier hspecifier hfile => ⟨?_, ?_⟩,
    fun l hl => ?_⟩
  · have hin : specifier ∈ (Specifier.distinct specifiers).filter (f.hasFile fs) :=
      List.mem_filter.mpr ⟨Specifier.mem_distinct.mpr hspecifier, hfile⟩
    refine ⟨_, (get?_normalized hgiven h hb hmem (List.ne_nil_of_mem hin)).mpr rfl,
      List.count_eq_one_of_mem ((Specifier.nodup_distinct specifiers).filter _) hin, ?_⟩
    intro hexternal
    rw [((mem_external h hb).mp hexternal).1] at hfile
    cases hfile
  · have hnodup : b.external.Nodup := by
      rw [(resolveFrom_eq_ok h hb).2]
      exact Specifier.nodup_distinct _
    exact List.count_eq_one_of_mem hnodup ((mem_external h hb).mpr ⟨hfile, _, hmem, hspecifier⟩)
  · intro l hl hin
    rw [hasFile_of_mem_normalized h hb hl hin] at hfile
    cases hfile
  · cases l with
    | nil => exact ⟨List.forall_mem_nil _, List.Pairwise.nil⟩
    | cons first l =>
        rw [(get?_normalized hgiven h hb hmem (List.cons_ne_nil first l)).mp hl]
        refine ⟨fun specifier hspecifier => ?_, (Specifier.distinct_inOrder specifiers).filter _⟩
        obtain ⟨hdistinct, hfile⟩ := List.mem_filter.mp hspecifier
        exact ⟨Specifier.mem_distinct.mp hdistinct, hfile⟩

/-- A root directory with one file. -/
def oneFile : FileSystem := ⟨[("a.js", .file .empty)], ⟨"/"⟩⟩

/-- A finder that looks at no directory but the root. -/
def rootFinder : EntryFinder :=
  ofResolver { Resolver.ofContext oneFile ⟨"/"⟩ with moduleDirectories := [], mainFiles := [] } []

/-- Two specifiers of which only the first has a file there. -/
def mixedEntries : GivenEntries := .chunks [("main", ["./a", "react"])]

/-- The settings that let the other one stay outside. -/
def reactOutside : EntrySettings := { externalSelectors := [.exact "react"] }

theorem resolveFrom_mixedEntries :
    mixedEntries.Distinct ∧ rootFinder.ValidTypes ∧
      ∃ b, rootFinder.resolveFrom oneFile reactOutside mixedEntries = .ok b ∧
        b.external.count "react" = 1 ∧
        ∃ l, b.normalized.get? "main" = some l ∧ l.count "./a" = 1 := by
  have hgiven : mixedEntries.Distinct := List.nodup_singleton "main"
  have htypes : rootFinder.ValidTypes := List.forall_mem_nil _
  have hchunks : rootFinder.chunkLists oneFile reactOutside mixedEntries =
      .ok [("main", ["./a", "react"])] := by
    rfl
  obtain ⟨hok, -, hb⟩ := (resolveFrom_drops_nothing rootFinder oneFile reactOutside mixedEntries
    hgiven htypes).2 _ hchunks
  have hfile : rootFinder.hasFile oneFile "./a" = true := by decide +kernel
  have hnoFile : rootFinder.hasFile oneFile "react" = false := by decide +kernel
  have hsettles : ∀ specifier ∈ ["./a", "react"],
      rootFinder.Settles oneFile reactOutside specifier := by
    simp only [List.forall_mem_cons, settles_iff]
    exact ⟨.inl hfile, .inr (by decide), List.forall_mem_nil _⟩
  obtain ⟨b, hbundle⟩ := hok.mpr (List.forall_mem_singleton.mpr hsettles)
  obtain ⟨hinternal, hexternal, -⟩ :=
    hb b hbundle "main" ["./a", "react"] (List.mem_singleton_self _)
  obtain ⟨l, hl, hcount, -⟩ := hinternal "./a" (by decide) hfile
  exact ⟨hgiven, htypes, b, hbundle, (hexternal "react" (by decide) hnoFile).1, l, hl, hcount⟩

end EntryFinder

end BundleConfig
