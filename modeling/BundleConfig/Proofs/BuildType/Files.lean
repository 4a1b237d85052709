import BundleConfig.BuildType.Files
import BundleConfig.Proofs.Result
import Mathlib.Tactic.Choose

/-!
# Which files build types get

Every build type gets the files of the walk that it accepts.  Putting main files first
and sorting the build types changes the order only.  So a file is collected exactly
when some build type accepts it, and once for every one that does.
-/

namespace BundleConfig

theorem BuildType.exists_accepts {t : BuildType} (h : ∃ pattern, t.pattern = .ok pattern)
    (p : Path) : ∃ accepted, t.accepts p = .ok accepted := by
  obtain ⟨pattern, hpattern⟩ := h
  rw [accepts, hpattern]
  split
  · exact ⟨false, rfl⟩
  · cases pattern <;> exact ⟨_, rfl⟩

namespace BuildTypeFiles

theorem mem_mainFirst {mainFiles : List String} {files : List Path} {p : Path} :
    p ∈ mainFirst mainFiles files ↔ p ∈ files := by
  rw [mainFirst, List.mem_append, List.mem_filter, List.mem_filter, ← and_or_left]
  cases isMain mainFiles p <;> simp

/-- A build type with a valid pattern gets the files it accepts. -/
theorem exists_ofFiles {t : BuildType} (h : ∃ pattern, t.pattern = .ok pattern)
    (mainFiles : List String) (files : List Path) (name : String) :
    ∃ found, ofFiles mainFiles files name t = .ok found ∧
      ∀ p, p ∈ found.files ↔ p ∈ files ∧ t.accepts p = .ok true := by
  choose accepted haccepted using BuildType.exists_accepts h
  rw [ofFiles, filterM_eq_ok haccepted]
  refine ⟨_, rfl, fun p => ?_⟩
  rw [mem_mainFirst, List.mem_filter, haccepted, Except.ok.injEq]

variable {fs : FileSystem} {types : Table BuildType}

/-- The files that are collected are those of the walk that some build type accepts. -/
theorem exists_collect (h : ∀ entry ∈ types, ∃ pattern, entry.2.pattern = .ok pattern)
    (base : Path) (ignored : List Path) (mainFiles : List String) :
    ∃ found, collect fs types base ignored mainFiles = .ok found ∧
      ∀ p, p ∈ found.flatMap (·.files) ↔ p ∈ fs.walk (fun p => !fs.isIn p ignored) base ∧
        ∃ entry ∈ types, entry.2.accepts p = .ok true := by
  have hfiles (entry : String × BuildType) (hentry : entry ∈ types) :=
    exists_ofFiles (h entry hentry) mainFiles (fs.walk (fun p => !fs.isIn p ignored) base) entry.1
  obtain ⟨found, hfound⟩ : ∃ found, types.mapM (fun entry => ofFiles mainFiles
      (fs.walk (fun p => !fs.isIn p ignored) base) entry.1 entry.2) = .ok found := by
    rw [← fault?_eq_none_iff, fault?_mapM, List.findSome?_eq_none_iff]
    intro entry hentry
    obtain ⟨t, ht, -⟩ := hfiles entry hentry
    exact fault?_eq_none_iff.mpr ⟨t, ht⟩
  refine ⟨found.mergeSort precedes, bind_eq_ok.mpr ⟨found, hfound, rfl⟩, fun p => ?_⟩
  simp only [List.mem_flatMap, List.mem_mergeSort, mem_of_mapM hfound]
  constructor
  · rintro ⟨t, ⟨entry, hentry, ht⟩, hp⟩
    obtain ⟨t', ht', hmem⟩ := hfiles entry hentry
    cases ht.symm.trans ht'
    obtain ⟨hwalk, haccepts⟩ := (hmem p).mp hp
    exact ⟨hwalk, entry, hentry, haccepts⟩
  · rintro ⟨hwalk, entry, hentry, haccepts⟩
    obtain ⟨t, ht, hmem⟩ := hfiles entry hentry
    exact ⟨t, ⟨entry, hentry, ht⟩, (hmem p).mpr ⟨hwalk, haccepts⟩⟩

end BuildTypeFiles

end BundleConfig
