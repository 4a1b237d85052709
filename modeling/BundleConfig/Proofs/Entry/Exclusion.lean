import BundleConfig.Proofs.Entry.Accounting

/-!
# Excluded specifiers

Exclusion comes before expansion.  It takes the excluded specifiers out of the entries, and
what a directory is expanded to afterwards is not compared with the exclusions again.

So an excluded specifier is among the results exactly when an entry that is not excluded
names a directory in which the specifier is listed (`lists_excluded_iff`).
-/

namespace BundleConfig

namespace BundleEntries

/-- The specifier is normalized for some chunk, or it is external. -/
def Lists (b : BundleEntries) (specifier : String) : Prop :=
  (∃ l ∈ b.normalized.values, specifier ∈ l) ∨ specifier ∈ b.external

end BundleEntries

namespace EntryFinder

variable {f : EntryFinder} {fs : FileSystem} {s : EntrySettings} {given : GivenEntries}
  {chunks : Chunks} {b : BundleEntries} {specifier : String}

/-- Some exclusion is about the specifier. -/
def IsExcluded (f : EntryFinder) (fs : FileSystem) (s : EntrySettings) (specifier : String) :
    Prop :=
  s.excluded.any (excludes fs f.resolver.context specifier) = true

instance : Decidable (f.IsExcluded fs s specifier) := inferInstanceAs (Decidable (_ = true))

/-- An entry that is not excluded expands to the specifier. -/
def ExpandsTo (f : EntryFinder) (fs : FileSystem) (s : EntrySettings) (entries : Chunks)
    (specifier : String) : Prop :=
  ∃ chunk ∈ entries, ∃ entry ∈ chunk.2,
    ¬ f.IsExcluded fs s entry ∧ specifier ∈ f.expand fs entry

/-- An entry that is not excluded names a directory in which the specifier is listed. -/
def ListedInDirectory (f : EntryFinder) (fs : FileSystem) (s : EntrySettings) (entries : Chunks)
    (specifier : String) : Prop :=
  ∃ chunk ∈ entries, ∃ entry ∈ chunk.2, ¬ f.IsExcluded fs s entry ∧
    ∃ directory, f.namedDirectory? fs entry = some directory ∧
      ∃ q ∈ fs.walk (f.keeps fs) directory, specifierOf f.resolver.context q = specifier

/-- What is looked up is what is listed. -/
theorem lists_iff_mem (h : f.chunkLists fs s given = .ok chunks)
    (hb : f.resolveFrom fs s given = .ok b) :
    b.Lists specifier ↔ ∃ chunk ∈ chunks, specifier ∈ chunk.2 := by
  have hnormalized := (resolveFrom_eq_ok h hb).1
  constructor
  · rintro (⟨l, hl, hmem⟩ | hexternal)
    · obtain ⟨⟨name, l⟩, hentry, rfl⟩ := List.mem_map.mp hl
      rw [hnormalized, Chunks.mem_dropEmpty (List.ne_nil_of_mem hmem),
        Table.mem_mapValues] at hentry
      obtain ⟨specifiers, hchunk, rfl⟩ := hentry
      have hspecifier := Specifier.mem_distinct.mp (List.mem_filter.mp hmem).1
      exact ⟨_, (Chunks.mem_dropEmpty (List.ne_nil_of_mem hspecifier)).mp hchunk, hspecifier⟩
    · exact ((mem_external h hb).mp hexternal).2
  · rintro ⟨⟨name, specifiers⟩, hchunk, hmem⟩
    cases hfile : f.hasFile fs specifier with
    | false => exact .inr ((mem_external h hb).mpr ⟨hfile, _, hchunk, hmem⟩)
    | true =>
        have hin : specifier ∈ (Specifier.distinct specifiers).filter (f.hasFile fs) :=
          List.mem_filter.mpr ⟨Specifier.mem_distinct.mpr hmem, hfile⟩
        refine .inl ⟨_, List.mem_map_of_mem (a := (name, _)) ?_, hin⟩
        rw [hnormalized, Chunks.mem_dropEmpty (List.ne_nil_of_mem hin), Table.mem_mapValues]
        exact ⟨specifiers, (Chunks.mem_dropEmpty (List.ne_nil_of_mem hmem)).mpr hchunk, rfl⟩

/-- What is looked up is what entries that are not excluded expand to. -/
theorem mem_expandAll_iff {entries : Chunks} :
    (∃ chunk ∈ f.expandAll fs (f.dropExcluded fs s entries), specifier ∈ chunk.2) ↔
      f.ExpandsTo fs s entries specifier := by
  simp [expandAll, dropExcluded, Table.mapValues, ExpandsTo, IsExcluded, and_assoc]

/-- The results list what entries that are not excluded expand to. -/
theorem lists_iff_expandsTo (hb : f.resolveFrom fs s given = .ok b) :
    b.Lists specifier ↔
      ∃ entries, f.entriesOf fs s given = .ok entries ∧ f.ExpandsTo fs s entries specifier := by
  obtain ⟨chunks, hchunks, -⟩ := bind_eq_ok.mp hb
  obtain ⟨entries, hentries, hexpanded⟩ := map_eq_ok.mp hchunks
  rw [lists_iff_mem hchunks hb, ← hexpanded, mem_expandAll_iff, hentries]
  constructor
  · exact fun h => ⟨entries, rfl, h⟩
  · rintro ⟨_, ⟨⟩, h⟩
    exact h

theorem mem_expand {entry : String} :
    specifier ∈ f.expand fs entry ↔
      (f.namedDirectory? fs entry = none ∧ specifier = entry) ∨
        ∃ directory, f.namedDirectory? fs entry = some directory ∧
          ∃ q ∈ fs.walk (f.keeps fs) directory, specifierOf f.resolver.context q = specifier := by
  cases hnamed : f.namedDirectory? fs entry <;> simp [expand, hnamed, specifiersIn]

/-- An excluded specifier is among the results exactly when an entry that is not excluded
names a directory in which it is listed. -/
theorem lists_excluded_iff (hb : f.resolveFrom fs s given = .ok b)
    (hexcluded : f.IsExcluded fs s specifier) :
    b.Lists specifier ↔ ∃ entries, f.entriesOf fs s given = .ok entries ∧
      f.ListedInDirectory fs s entries specifier := by
  rw [lists_iff_expandsTo hb]
  refine exists_congr fun entries => and_congr_right fun _ => ?_
  refine exists_congr fun chunk => and_congr_right fun _ => ?_
  refine exists_congr fun entry => and_congr_right fun _ => ?_
  refine and_congr_right fun hkept => mem_expand.trans (or_iff_right ?_)
  rintro ⟨-, rfl⟩
  exact hkept hexcluded

/-- The settings that take a main file out. -/
def withoutMainFile : EntrySettings := { excluded := ["./page/index.js"] }

/-- An excluded file that is an entry itself is not among the results. -/
theorem resolveFrom_withoutMainFile :
    ∃ b, mainFileFinder.resolveFrom directories withoutMainFile
        (.list ["./page/index.js", "./widget.js"]) = .ok b ∧
      mainFileFinder.IsExcluded directories withoutMainFile "./page/index.js" ∧
      ¬ b.Lists "./page/index.js" := by
  have hexcluded : mainFileFinder.IsExcluded directories withoutMainFile "./page/index.js" := by
    decide +kernel
  have hplain : mainFileFinder.namedDirectory? directories "./widget.js" = none := by
    decide +kernel
  have hfound : mainFileFinder.hasFile directories "./widget.js" = true := by decide +kernel
  have hlooked : mainFileFinder.expandAll directories
      (mainFileFinder.dropExcluded directories withoutMainFile
        [("index", ["./page/index.js", "./widget.js"])]) = [("index", ["./widget.js"])] := by
    decide +kernel
  have hchunks : mainFileFinder.chunkLists directories withoutMainFile
      (.list ["./page/index.js", "./widget.js"]) = .ok [("index", ["./widget.js"])] := by
    rw [← hlooked]
    rfl
  obtain ⟨b, hb⟩ := exists_resolveFrom validTypes_mainFileFinder hchunks
    (List.forall_mem_singleton.mpr (List.forall_mem_singleton.mpr (.inl hfound)))
  refine ⟨b, hb, hexcluded, fun hlists => ?_⟩
  obtain ⟨_, ⟨⟩, chunk, hchunk, entry, hentry, hkept, directory, hnamed, -⟩ :=
    (lists_excluded_iff hb hexcluded).mp hlists
  rw [List.mem_singleton.mp hchunk] at hentry
  rcases List.mem_cons.mp hentry with rfl | hentry
  · exact hkept hexcluded
  · rw [List.mem_singleton.mp hentry, hplain] at hnamed
    cases hnamed

/-- The excluded file is among the results when its directory is an entry. -/
theorem resolveFrom_lists_excluded :
    ∃ b, mainFileFinder.resolveFrom directories withoutMainFile (.list ["./page"]) = .ok b ∧
      mainFileFinder.IsExcluded directories withoutMainFile "./page/index.js" ∧
      ∃ l ∈ b.normalized.values, "./page/index.js" ∈ l := by
  have hexcluded : mainFileFinder.IsExcluded directories withoutMainFile "./page/index.js" := by
    decide +kernel
  have hfound : mainFileFinder.hasFile directories "./page/index.js" = true := by
    decide +kernel
  have hlooked : mainFileFinder.expandAll directories
      (mainFileFinder.dropExcluded directories withoutMainFile [("index", ["./page"])]) =
        [("index", ["./page/index.js"])] := by
    decide +kernel
  have hchunks : mainFileFinder.chunkLists directories withoutMainFile (.list ["./page"]) =
      .ok [("index", ["./page/index.js"])] := by
    rw [← hlooked]
    rfl
  obtain ⟨b, hb⟩ := exists_resolveFrom validTypes_mainFileFinder hchunks
    (List.forall_mem_singleton.mpr (List.forall_mem_singleton.mpr (.inl hfound)))
  refine ⟨b, hb, hexcluded, ?_⟩
  have hlists : b.Lists "./page/index.js" :=
    (lists_iff_mem hchunks hb).mpr ⟨_, List.mem_singleton_self _, List.mem_singleton_self _⟩
  refine hlists.resolve_right fun hexternal => ?_
  rw [((mem_external hchunks hb).mp hexternal).1] at hfound
  cases hfound

end EntryFinder

end BundleConfig
