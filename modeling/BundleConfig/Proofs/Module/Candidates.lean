import BundleConfig.Module.Resolver
import BundleConfig.Proofs.Path.Rendering

/-!
# The first admissible candidate

A *candidate* for the file of a request is a place, a stem there, a suffix and an
extension.  `Resolver.candidates` lists them in one order: by place, then by stem,
then by suffix, and last by extension.  A candidate is *admissible* when its path is
a regular file that is outside of every ignored directory.

The resolver searches in four nested steps, each of which may come out empty.
`resolve_eq_first` says that together they are one search through the list, and
what is true of everything it finds.

*Order.*  `places_of_isAbsolute`, `places_of_isRelative` and `places_of_bare` say
where a request of each kind is looked for, and `stems_of_packageEntry` and
`stems_of_noPackageEntry` what is tried at such a place.

*Absolute places.*  A resolver whose context and base are absolute looks at
absolute places only, and what is appended to an absolute path leaves it absolute.
-/

namespace BundleConfig

namespace Resolver

/-- One way to find the file of a request. -/
structure Candidate where
  /-- Where the request is looked for. -/
  place : Path
  /-- The place itself, the entry of the package there or a main file there. -/
  stem : Path
  /-- The module suffix. -/
  suffix : String
  /-- The file extension. -/
  extension : String

/-- The path of a candidate. -/
def Candidate.path (c : Candidate) : Path := c.stem.append (c.suffix ++ c.extension : String)

/-- The candidates for a rewritten request, best first. -/
def candidates (r : Resolver) (fs : FileSystem) (request : String) : List Candidate :=
  (r.places fs request).flatMap fun place =>
    (r.stems fs place).flatMap fun stem =>
      (r.endings.suffixes ++ [""]).flatMap fun suffix =>
        ("" :: r.endings.internalExtensions).map fun extension => ⟨place, stem, suffix, extension⟩

/-- A path that may be found: a regular file that neither is an ignored directory nor
lies below one. -/
def Admissible (r : Resolver) (fs : FileSystem) (p : Path) : Prop :=
  fs.isFile p = true ∧
    ∀ directory ∈ r.ignored, ¬ (fs.absolute directory).components <+: (fs.absolute p).components

variable {r : Resolver} {fs : FileSystem}

/-! ## One search -/

theorem accepts_iff {p : Path} : r.accepts fs p = true ↔ r.Admissible fs p := by
  simp [accepts, Admissible, FileSystem.isIn, FileSystem.absolute, Path.isIn, Path.startsWith,
    and_comm]

/-- The texts a stem is continued with are a suffix and an extension each. -/
theorem fileOfStem_eq_find? (place stem : Path) :
    r.fileOfStem fs stem = (((r.endings.suffixes ++ [""]).flatMap fun suffix =>
      ("" :: r.endings.internalExtensions).map fun extension =>
        (⟨place, stem, suffix, extension⟩ : Candidate)).map Candidate.path).find?
      (r.accepts fs) := by
  simp only [fileOfStem, continuations, List.map_flatMap, List.map_map, Function.comp_def,
    Candidate.path]

/-- The nested search is one search through the candidates. -/
theorem findSome?_fileAt (request : String) :
    (r.places fs request).findSome? (r.fileAt fs) =
      ((r.candidates fs request).map Candidate.path).find? (r.accepts fs) := by
  have hplace : ∀ place, r.fileAt fs place =
      (((r.stems fs place).flatMap fun stem => (r.endings.suffixes ++ [""]).flatMap fun suffix =>
        ("" :: r.endings.internalExtensions).map fun extension =>
          (⟨place, stem, suffix, extension⟩ : Candidate)).map Candidate.path).find?
        (r.accepts fs) := by
    intro place
    rw [List.map_flatMap, List.find?_flatMap, fileAt]
    exact congrArg (List.findSome? · _) (funext fun stem => fileOfStem_eq_find? place stem)
  rw [candidates, List.map_flatMap, List.find?_flatMap]
  exact congrArg (List.findSome? · _) (funext hplace)

/-! ## Absolute places -/

theorem isAbsolute_of_mem_places (hcontext : r.context.isAbsolute = true)
    (hbase : r.base.isAbsolute = true) {request : String} {place : Path}
    (h : place ∈ r.places fs request) : place.isAbsolute = true := by
  unfold places at h
  dsimp only at h
  split at h
  next habsolute =>
    obtain rfl := List.mem_singleton.mp h
    exact Path.isAbsolute_clean habsolute
  next =>
    split at h
    next =>
      obtain rfl := List.mem_singleton.mp h
      exact Path.isAbsolute_resolve hcontext _ _
    next =>
      obtain hmodules | hlast := List.mem_append.mp h
      · obtain ⟨directory, hdirectory, hname⟩ := List.mem_flatMap.mp hmodules
        obtain ⟨name, -, rfl⟩ := List.mem_map.mp hname
        have habove := (Path.ancestors_of_isAbsolute hcontext Package.maxAscent).1
        exact Path.isAbsolute_join
          (Path.isAbsolute_entry (habove directory hdirectory) (.ofText name))
      · obtain rfl := List.mem_singleton.mp hlast
        exact Path.isAbsolute_join hbase

theorem isAbsolute_of_packageStem? {place stem : Path} (hplace : place.isAbsolute = true)
    (h : r.packageStem? fs place = some stem) : stem.isAbsolute = true := by
  unfold packageStem? at h
  split at h
  · obtain ⟨entry, -, h⟩ := Option.bind_eq_some_iff.mp h
    obtain ⟨file, -, h⟩ := Option.bind_eq_some_iff.mp h
    obtain rfl := Option.some.inj h
    exact Path.isAbsolute_resolve hplace _ _
  · cases h

theorem isAbsolute_of_mainStem? {place stem : Path} {name : String}
    (hplace : place.isAbsolute = true) (h : r.mainStem? place name = some stem) :
    stem.isAbsolute = true := by
  unfold mainStem? at h
  dsimp only at h
  split at h
  · cases h
  · obtain rfl := Option.some.inj h
    exact Path.isAbsolute_entry hplace _

theorem isAbsolute_of_mem_stems {place stem : Path} (hplace : place.isAbsolute = true)
    (h : stem ∈ r.stems fs place) : stem.isAbsolute = true := by
  simp only [stems, List.mem_append, List.mem_singleton, Option.mem_toList,
    List.mem_filterMap] at h
  obtain (rfl | hpackage) | ⟨name, -, hmain⟩ := h
  · exact hplace
  · exact isAbsolute_of_packageStem? hplace hpackage
  · exact isAbsolute_of_mainStem? hplace hmain

theorem isAbsolute_of_mem_candidates (hcontext : r.context.isAbsolute = true)
    (hbase : r.base.isAbsolute = true) {request : String} {c : Candidate}
    (h : c ∈ r.candidates fs request) : c.path.isAbsolute = true := by
  simp only [candidates, List.mem_flatMap, List.mem_map] at h
  obtain ⟨place, hplace, stem, hstem, suffix, -, extension, -, rfl⟩ := h
  have habsolute := isAbsolute_of_mem_stems (isAbsolute_of_mem_places hcontext hbase hplace) hstem
  exact Path.isAbsolute_append habsolute _

/-! ## Places and stems in order -/

/-- A request that starts as a relative one does not start at the root. -/
theorem isAbsolute_of_isRelative {request : String} (h : Specifier.isRelative request = true) :
    (⟨request⟩ : Path).isAbsolute = false := by
  have hdot : request.toList.head? = some '.' := by
    simp only [Specifier.isRelative, Bool.or_eq_true, beq_iff_eq, List.isPrefixOf_iff_prefix] at h
    obtain ((rfl | rfl) | ⟨rest, hrest⟩) | ⟨rest, hrest⟩ := h
    · rfl
    · rfl
    · exact hrest ▸ rfl
    · exact hrest ▸ rfl
  rw [Path.isAbsolute_eq, Path.text_mk, hdot]
  rfl

/-- An absolute request denotes the place it spells. -/
theorem places_of_isAbsolute {request : String} (h : (⟨request⟩ : Path).isAbsolute = true) :
    r.places fs request = [Path.clean ⟨request⟩] :=
  if_pos h

/-- A relative request denotes its place as seen from the context. -/
theorem places_of_isRelative {request : String} (h : Specifier.isRelative request = true) :
    r.places fs request = [fs.resolve r.context ⟨request⟩] := by
  rw [places, isAbsolute_of_isRelative h]
  exact if_pos h

/-- Any other request denotes its entry in each module directory of the context and
of the directories above it, the nearest first, and last the one in the base. -/
theorem places_of_bare {request : String} (habsolute : (⟨request⟩ : Path).isAbsolute = false)
    (hrelative : Specifier.isRelative request = false) :
    r.places fs request =
      ((r.context.ancestors Package.maxAscent).flatMap fun directory =>
        r.moduleDirectories.map fun name => (directory.entry name).join ⟨request⟩) ++
      [r.base.join ⟨request⟩] := by
  simp only [places, habsolute, hrelative, Bool.false_eq_true, if_false]

/-- The main files are looked for under their rewritten names, of which the empty
ones count for nothing. -/
theorem filterMap_mainStem? (place : Path) :
    r.mainFiles.filterMap (r.mainStem? place) =
      ((r.mainFiles.map r.rewriting.replacements.apply).filter (!·.isEmpty)).map
        fun (name : String) => place.entry name := by
  induction r.mainFiles with
  | nil => rfl
  | cons name rest ih =>
      by_cases h : (r.rewriting.replacements.apply name).isEmpty = true
      · simp [mainStem?, h, ih]
      · simp [mainStem?, h, ih]

/-- At the place of a package with an entry file come the place itself, that file
under its rewritten name, and the main files. -/
theorem stems_of_packageEntry {place : Path} {entry : Package.Entry} {file : String}
    (hplace : fs.isDirectory place = true)
    (hentry : Package.entry? fs place r.mainProperties r.aliasProperties = some entry)
    (hfile : entry.file = some file) :
    r.stems fs place =
      place :: fs.resolve place ⟨r.rewriting.replacements.apply (entry.aliases.apply file)⟩ ::
        ((r.mainFiles.map r.rewriting.replacements.apply).filter (!·.isEmpty)).map
        fun (name : String) => place.entry name := by
  have hpackage : r.packageStem? fs place =
      some (fs.resolve place ⟨r.rewriting.replacements.apply (entry.aliases.apply file)⟩) := by
    simp [packageStem?, hplace, hentry, hfile]
  rw [stems, hpackage, filterMap_mainStem?]
  rfl

/-- At every other place come the place itself and the main files. -/
theorem stems_of_noPackageEntry {place : Path}
    (h : fs.isDirectory place = true → ∀ entry,
      Package.entry? fs place r.mainProperties r.aliasProperties = some entry → entry.file = none) :
    r.stems fs place =
      place ::
        ((r.mainFiles.map r.rewriting.replacements.apply).filter (!·.isEmpty)).map
        fun (name : String) => place.entry name := by
  have hpackage : r.packageStem? fs place = none := by
    by_cases hplace : fs.isDirectory place = true
    · cases hentry : Package.entry? fs place r.mainProperties r.aliasProperties with
      | none => simp [packageStem?, hplace, hentry]
      | some entry => simp [packageStem?, hplace, hentry, h hplace entry hentry]
    · simp [packageStem?, hplace]
  rw [stems, hpackage, filterMap_mainStem?]
  rfl

/-! ## The first one -/

/-- The search through the candidates finds the first admissible one. -/
theorem find?_candidates {request : String} {p : Path} :
    ((r.candidates fs request).map Candidate.path).find? (r.accepts fs) = some p ↔
      ∃ before c after, r.candidates fs request = before ++ c :: after ∧ c.path = p ∧
        r.Admissible fs p ∧ ∀ b ∈ before, ¬ r.Admissible fs b.path := by
  rw [List.find?_map, Option.map_eq_some_iff]
  constructor
  · rintro ⟨c, hc, rfl⟩
    obtain ⟨hadmissible, before, after, heq, hbefore⟩ := List.find?_eq_some_iff_append.mp hc
    refine ⟨before, c, after, heq, rfl, accepts_iff.mp hadmissible, fun b hb hnot => ?_⟩
    have hrefused := hbefore b hb
    rw [Function.comp_apply, accepts_iff.mpr hnot] at hrefused
    cases hrefused
  · rintro ⟨before, c, after, heq, rfl, hadmissible, hbefore⟩
    refine ⟨c, List.find?_eq_some_iff_append.mpr ⟨accepts_iff.mpr hadmissible, before, after, heq,
      fun b hb => ?_⟩, rfl⟩
    rw [Function.comp_apply, Bool.not_eq_true', ← Bool.not_eq_true, accepts_iff]
    exact hbefore b hb

theorem resolve_eq_some_iff {specifier : String} {p : Path} :
    r.resolve fs specifier = some p ↔ r.rewrite specifier ≠ "" ∧
      ∃ before c after, r.candidates fs (r.rewrite specifier) = before ++ c :: after ∧ c.path = p ∧
        r.Admissible fs p ∧ ∀ b ∈ before, ¬ r.Admissible fs b.path := by
  simp only [resolve, findSome?_fileAt, ← find?_candidates, String.isEmpty_iff]
  by_cases h : r.rewrite specifier = "" <;> simp [h]

theorem resolve_eq_none_iff {specifier : String} :
    r.resolve fs specifier = none ↔ r.rewrite specifier = "" ∨
      ∀ c ∈ r.candidates fs (r.rewrite specifier), ¬ r.Admissible fs c.path := by
  simp only [resolve, findSome?_fileAt, String.isEmpty_iff]
  by_cases h : r.rewrite specifier = "" <;> simp [h, accepts_iff]

/-- A root directory with a main file in a directory. -/
def mainFileOnly : FileSystem :=
  ⟨[("app", .directory [("index.js", .file .empty)])], ⟨"/"⟩⟩

end Resolver

end BundleConfig
