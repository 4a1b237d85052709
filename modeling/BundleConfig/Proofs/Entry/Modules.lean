import BundleConfig.Proofs.Entry.Classification

/-!
# The modules of a bundle

Where every specifier has a file, the bundle has the modules of all chunks, in their
order.  No chunk is left out, since the ones that are empty were dropped before.

Two chunks can list specifiers of one file, and two specifiers of one chunk can be of
one file.  Neither happens when a file tells its chunk and its specifier.
-/

namespace BundleConfig

namespace EntryFinder

variable {f : EntryFinder} {fs : FileSystem} {s : EntrySettings} {given : GivenEntries}

/-- Where no chunk is dropped from the normalized entries, none is from the modules. -/
theorem bundle_modules {modules : Table (List EntryModule)}
    (h : Chunks.dropEmpty (modules.mapValues internalRequests) =
      modules.mapValues internalRequests) : (bundle s given modules).modules = modules := by
  have hcontains : ∀ {entry : String × List EntryModule}, entry ∈ modules →
      Table.contains (modules.mapValues internalRequests) entry.1 = true := by
    intro entry hentry
    rw [Table.contains_iff, Table.keys_mapValues]
    exact List.mem_map_of_mem hentry
  have hkept : modules.filter (fun entry =>
      Table.contains (modules.mapValues internalRequests) entry.1) = modules :=
    List.filter_eq_self.mpr fun entry hentry => hcontains hentry
  have hmissing : (modules.mapValues internalRequests).filter (fun chunk =>
      !Table.contains modules chunk.1) = [] := by
    refine List.filter_eq_nil_iff.mpr ?_
    rintro ⟨name, l⟩ hmem
    obtain ⟨ms, hentry, rfl⟩ := Table.mem_mapValues.mp hmem
    rw [Table.contains_iff.mpr (List.mem_map_of_mem hentry)]
    exact nofun
  unfold bundle
  dsimp only
  rw [h, hkept, hmissing, List.map_nil, List.append_nil]

variable {chunks : Chunks}

/-- Where every specifier has a file the modules are those of the chunks. -/
theorem files_of_internal (h : f.chunkLists fs s given = .ok chunks) {b : BundleEntries}
    (hb : f.resolveFrom fs s given = .ok b)
    (hfiles : ∀ chunk ∈ chunks, ∀ specifier ∈ chunk.2, f.hasFile fs specifier = true) :
    b.modules.values.flatten.map (·.file) = chunks.dropEmpty.flatMap fun chunk =>
      (Specifier.distinct chunk.2).map (f.resolver.resolve fs) := by
  rw [resolveFrom_of_chunkLists h] at hb
  obtain ⟨modules, hmodules, rfl⟩ := map_eq_ok.mp hb
  have hdistinct : modules.mapValues internalRequests =
      chunks.dropEmpty.mapValues Specifier.distinct := by
    rw [mapValues_internalRequests hmodules]
    refine List.map_congr_left fun chunk hchunk => congrArg (Prod.mk chunk.1) ?_
    refine List.filter_eq_self.mpr fun specifier hspecifier => ?_
    have hmem := Specifier.mem_distinct.mp hspecifier
    exact hfiles chunk ((Chunks.mem_dropEmpty (List.ne_nil_of_mem hmem)).mp hchunk) specifier hmem
  have hempty : ∀ specifiers, Specifier.distinct specifiers = [] ↔ specifiers = [] := by
    intro specifiers
    simp only [List.eq_nil_iff_forall_not_mem, Specifier.mem_distinct]
  rw [bundle_modules (by rw [hdistinct, Chunks.dropEmpty_mapValues hempty])]
  have heq := congrArg (List.flatMap fun entry : String × List (String × Option Path) =>
    entry.2.map (·.2)) (modulesOf_eq_ok hmodules)
  simp only [List.flatMap_map, List.map_map, Function.comp_def] at heq
  rw [Table.values, ← List.flatMap_def, List.map_flatMap]
  exact heq

/-- Files that tell their chunk and their specifier are the files of one module each. -/
theorem nodup_files (hkeys : chunks.keys.Nodup) (chunkOf specifierOf : Path → String)
    (hfiles : ∀ chunk ∈ chunks, ∀ specifier ∈ chunk.2, ∃ q,
      f.resolver.resolve fs specifier = some q ∧ chunkOf q = chunk.1 ∧ specifierOf q = specifier) :
    (chunks.dropEmpty.flatMap fun chunk =>
      (Specifier.distinct chunk.2).map (f.resolver.resolve fs)).Nodup := by
  have htell : ∀ chunk ∈ chunks.dropEmpty, ∀ specifier ∈ Specifier.distinct chunk.2, ∃ q,
      f.resolver.resolve fs specifier = some q ∧ chunkOf q = chunk.1 ∧
        specifierOf q = specifier := by
    intro chunk hchunk specifier hspecifier
    have hmem := Specifier.mem_distinct.mp hspecifier
    exact hfiles chunk ((Chunks.mem_dropEmpty (List.ne_nil_of_mem hmem)).mp hchunk) specifier hmem
  refine List.nodup_flatMap.mpr ⟨fun chunk hchunk => ?_, ?_⟩
  · refine List.Nodup.map_on (fun specifier hspecifier other hother heq => ?_)
      (Specifier.nodup_distinct chunk.2)
    obtain ⟨q, hq, -, rfl⟩ := htell chunk hchunk specifier hspecifier
    obtain ⟨q', hq', -, rfl⟩ := htell chunk hchunk other hother
    rw [hq, hq'] at heq
    rw [Option.some.inj heq]
  · have hnames := List.pairwise_map.mp (Chunks.keys_dropEmpty_nodup hkeys)
    refine hnames.imp_of_mem fun {chunk other} hchunk hother hne file hfile hfile' => hne ?_
    obtain ⟨specifier, hspecifier, rfl⟩ := List.mem_map.mp hfile
    obtain ⟨specifier', hspecifier', heq⟩ := List.mem_map.mp hfile'
    obtain ⟨q, hq, hchunkOf, -⟩ := htell chunk hchunk specifier hspecifier
    obtain ⟨q', hq', hchunkOf', -⟩ := htell other hother specifier' hspecifier'
    rw [hq, hq'] at heq
    rw [← hchunkOf, ← hchunkOf', Option.some.inj heq]

end EntryFinder

end BundleConfig
