import BundleConfig.Proofs.Module.Candidates

/-!
# Ignoring more directories

Two resolvers that differ in their ignored directories only look at the same candidates in
the same order.  If one of them ignores all that the other one does and more, it passes over
the files in its own directories and over nothing else (`candidates_ignoring`,
`admissible_ignoring_iff`).  No place and no stem is left because of an ignored file there.

So answers only go: what is not found stays unfound, and a file that is found stays found
unless it lies in one of the directories (`resolve_ignoring`).
-/

namespace BundleConfig

/-- What one of some items has, one of more items has. -/
theorem any_of_subset {α : Type} {xs ys : List α} {f : α → Bool} (h : xs ⊆ ys)
    (hx : xs.any f = true) : ys.any f = true := by
  obtain ⟨x, hmem, hf⟩ := List.any_eq_true.mp hx
  exact List.any_eq_true.mpr ⟨x, h hmem, hf⟩

namespace Resolver

variable {r : Resolver} {fs : FileSystem} {directories : List Path} {specifier : String}
  {p q : Path}

/-- The resolver that ignores other directories. -/
def ignoring (r : Resolver) (directories : List Path) : Resolver :=
  { r with ignored := directories }

/-! ## The candidates -/

/-- The ignored directories have no say in what a resolver looks at. -/
theorem candidates_ignoring (request : String) :
    (r.ignoring directories).candidates fs request = r.candidates fs request := rfl

theorem admissible_iff : r.Admissible fs p ↔ fs.isFile p = true ∧ fs.isIn p r.ignored = false := by
  rw [← accepts_iff, accepts, Bool.and_eq_true, Bool.not_eq_true', and_comm]

/-- A resolver that ignores more may find the files that lie in none of its directories. -/
theorem admissible_ignoring_iff (h : r.ignored ⊆ directories) :
    (r.ignoring directories).Admissible fs p ↔
      r.Admissible fs p ∧ fs.isIn p directories = false := by
  rw [admissible_iff, admissible_iff]
  constructor
  · rintro ⟨hfile, hout⟩
    refine ⟨⟨hfile, Bool.eq_false_iff.mpr fun hin => ?_⟩, hout⟩
    have hmore : fs.isIn p directories = true := any_of_subset h hin
    cases hout.symm.trans hmore
  · rintro ⟨⟨hfile, -⟩, hout⟩
    exact ⟨hfile, hout⟩

/-! ## The answers -/

/-- What is not found stays unfound. -/
theorem resolve_ignoring_eq_none (h : r.ignored ⊆ directories)
    (hnone : r.resolve fs specifier = none) :
    (r.ignoring directories).resolve fs specifier = none := by
  rw [resolve_eq_none_iff] at hnone ⊢
  refine hnone.imp id fun hall c hc hadmissible => ?_
  rw [candidates_ignoring] at hc
  exact hall c hc ((admissible_ignoring_iff h).mp hadmissible).1

/-- A file outside of the directories stays found: the candidates before it are as
inadmissible as they were. -/
theorem resolve_ignoring_eq_some (h : r.ignored ⊆ directories)
    (hp : r.resolve fs specifier = some p) (hout : fs.isIn p directories = false) :
    (r.ignoring directories).resolve fs specifier = some p := by
  obtain ⟨hrequest, before, c, after, hsplit, rfl, hadmissible, hbefore⟩ :=
    resolve_eq_some_iff.mp hp
  refine resolve_eq_some_iff.mpr ⟨hrequest, before, c, after, hsplit, rfl, ?_, ?_⟩
  · exact (admissible_ignoring_iff h).mpr ⟨hadmissible, hout⟩
  · intro b hb hnow
    exact hbefore b hb ((admissible_ignoring_iff h).mp hnow).1

/-- Ignoring more directories only takes answers away.  What is not found stays unfound, and a
file outside of all directories stays found.  If the resolver that ignores more finds a file,
then so does the other one, and if that is another file it lies in one of the directories. -/
theorem resolve_ignoring (r : Resolver) (fs : FileSystem) (specifier : String)
    (directories : List Path) (h : r.ignored ⊆ directories) :
    (r.resolve fs specifier = none →
      (r.ignoring directories).resolve fs specifier = none) ∧
    (∀ p, r.resolve fs specifier = some p → fs.isIn p directories = false →
      (r.ignoring directories).resolve fs specifier = some p) ∧
    (∀ q, (r.ignoring directories).resolve fs specifier = some q →
      ∃ p, r.resolve fs specifier = some p ∧ (q ≠ p → fs.isIn p directories = true)) := by
  refine ⟨resolve_ignoring_eq_none h, fun p => resolve_ignoring_eq_some h, fun q hq => ?_⟩
  cases hp : r.resolve fs specifier with
  | none =>
      rw [resolve_ignoring_eq_none h hp] at hq
      cases hq
  | some p =>
      refine ⟨p, rfl, fun hne => ?_⟩
      by_contra hout
      rw [resolve_ignoring_eq_some h hp (Bool.eq_false_iff.mpr hout)] at hq
      exact hne (Option.some.inj hq).symm

/-- A project with a library in two module directories, one above the other. -/
def twoLibraries : FileSystem :=
  ⟨[("project", .directory [("node_modules", .directory [("library.js", .file .empty)]),
      ("main.js", .file .empty)]),
    ("node_modules", .directory [("library.js", .file .empty)])], ⟨"/"⟩⟩

/-- A resolver of the project that tries scripts only. -/
def libraryResolver : Resolver :=
  { ofContext twoLibraries ⟨"/project"⟩ with endings := ⟨[".js"], [".js"], []⟩, mainFiles := [] }

/-- The usual ignored directory and the nearer module directory. -/
def withNearerModules : List Path := [⟨"/project/.git"⟩, ⟨"/project/node_modules"⟩]

/-- The library of the nearer directory gives way to the one above, and the script stays. -/
theorem resolve_twoLibraries :
    libraryResolver.ignored ⊆ withNearerModules ∧
      (libraryResolver.resolve twoLibraries "library" =
          some ⟨"/project/node_modules/library.js"⟩ ∧
        (libraryResolver.ignoring withNearerModules).resolve twoLibraries "library" =
          some ⟨"/node_modules/library.js"⟩ ∧
        twoLibraries.isIn ⟨"/project/node_modules/library.js"⟩ withNearerModules = true) ∧
      (libraryResolver.resolve twoLibraries "./main" = some ⟨"/project/main.js"⟩ ∧
        twoLibraries.isIn ⟨"/project/main.js"⟩ withNearerModules = false ∧
        (libraryResolver.ignoring withNearerModules).resolve twoLibraries "./main" =
          some ⟨"/project/main.js"⟩) ∧
      libraryResolver.resolve twoLibraries "missing" = none ∧
        (libraryResolver.ignoring withNearerModules).resolve twoLibraries "missing" = none := by
  have hmore : libraryResolver.ignored ⊆ withNearerModules := by decide +kernel
  have hmain : libraryResolver.resolve twoLibraries "./main" = some ⟨"/project/main.js"⟩ := by
    decide +kernel
  have hmissing : libraryResolver.resolve twoLibraries "missing" = none := by decide +kernel
  have habove : (libraryResolver.ignoring withNearerModules).resolve twoLibraries "library" =
      some ⟨"/node_modules/library.js"⟩ := by decide +kernel
  have hout : twoLibraries.isIn ⟨"/project/main.js"⟩ withNearerModules = false := by
    decide +kernel
  have hlibrary := resolve_ignoring libraryResolver twoLibraries "library" withNearerModules hmore
  obtain ⟨p, hp, hdiffers⟩ := hlibrary.2.2 _ habove
  have hnearer : libraryResolver.resolve twoLibraries "library" =
      some ⟨"/project/node_modules/library.js"⟩ := by decide +kernel
  obtain rfl : _ = p := Option.some.inj (hnearer.symm.trans hp)
  refine ⟨hmore, ⟨hp, habove, hdiffers (by decide)⟩, ⟨hmain, hout, ?_⟩, hmissing, ?_⟩
  · exact (resolve_ignoring _ _ _ _ hmore).2.1 _ hmain hout
  · exact (resolve_ignoring _ _ _ _ hmore).1 hmissing

end Resolver

end BundleConfig
