import BundleConfig.Proofs.Module.External
import BundleConfig.Proofs.Module.Ignored

/-!
# Files of the project stay internal

A module is internal if its file lies in the context and in no location of libraries, or if
it lies in an ignored directory, unless an include selector is about it.  Two things stand
in the way of that.

*Ignored directories.*  The search for the module passes over ignored files.  If it finds
nothing else there is no file, and a module without a file is external.

*Spelling.*  Whether a file lies in the context is read off its path as it was found.  A path
that leads out of another directory through `..` does not start with the context, wherever it
ends.  For the other tests paths are cleaned first.

So the *plain file* of a module is the one that is found with no directory ignored, and
`externalRequest_of_plainFile` says what becomes of it in each case.
-/

namespace BundleConfig

namespace Resolver

variable {r : Resolver} {fs : FileSystem} {o : ExternalOptions} {specifier : String} {p q : Path}

/-! ## The plain file -/

/-- The resolver that ignores no directory. -/
def unignoring (r : Resolver) : Resolver := { r with ignored := [] }

/-- The file of a module, with no directory ignored. -/
def plainFile (r : Resolver) (fs : FileSystem) (o : ExternalOptions) (specifier : String) :
    Option Path :=
  (r.forExternals o.requestContext).unignoring.resolve fs (r.requestOf specifier)

/-- The directories whose modules count as libraries, seen from the context. -/
def libraryLocations (r : Resolver) (fs : FileSystem) (o : ExternalOptions) : List Path :=
  o.locations.map fun (location : String) => fs.resolve r.context ⟨location⟩

/-- A resolver finds the same file with no directory ignored, if it may find it. -/
theorem resolve_of_unignoring (hp : r.unignoring.resolve fs specifier = some p)
    (hignored : fs.isIn p r.ignored = false) : r.resolve fs specifier = some p :=
  resolve_ignoring_eq_some (r := r.unignoring) (List.nil_subset r.ignored) hp hignored

/-- If all files that a resolver looks at are ignored it finds none. -/
theorem resolve_of_allIgnored (hall : ∀ c ∈ r.candidates fs (r.rewrite specifier),
    fs.isFile c.path = true → fs.isIn c.path r.ignored = true) :
    r.resolve fs specifier = none := by
  rw [resolve_eq_none_iff]
  right
  intro c hc hadmissible
  obtain ⟨hfile, hkept⟩ := admissible_iff.mp hadmissible
  rw [hall c hc hfile] at hkept
  cases hkept

/-! ## Outcomes -/

/-- Whether a module with a file is internal by what is asked for: by a selector, as an entry,
for its extension or for its loaders. -/
def isAskedFor (r : Resolver) (fs : FileSystem) (o : ExternalOptions) (specifier : String)
    (p : Path) : Bool :=
  Selector.anySelects o.excluded (r.requestOf specifier) ||
    o.entries.any (fun entry =>
      sameFile ((r.seenFrom o.requestContext).resolve fs entry) (some p)) ||
    !r.hasExternalExtension (some p) ||
    (o.dynamicInPlace && specifier.toList.contains '!')

/-- A path that starts with the context and lies in no location of libraries. -/
theorem isOutside_eq_false_iff : r.isOutside fs o (some p) = false ↔
    p.startsWith r.context = true ∧ fs.isIn p (r.libraryLocations fs o) = false := by
  rw [isOutside, libraryLocations]
  simp

section

variable (hincluded : Selector.anySelects o.included (r.requestOf specifier) = false)

include hincluded

/-- A module without a file is internal where libraries are in place. -/
theorem externalRequest_eq_none_of_noFile
    (hfile : (r.forExternals o.requestContext).resolve fs (r.requestOf specifier) = none) :
    r.externalRequest fs o specifier = none ↔ o.normalInPlace = true := by
  constructor
  · intro hnone
    by_contra hplace
    have hsome := externalRequest_of_noFile (Bool.eq_false_iff.mpr hplace) hfile
    rw [hnone] at hsome
    cases hsome
  · intro hplace
    unfold requestOf at hincluded
    simp [externalRequest, hincluded, hplace]

/-- A module with a file is internal where libraries are in place, if it is asked for, or if
the file is one of the project. -/
theorem externalRequest_eq_none_iff
    (hfile : (r.forExternals o.requestContext).resolve fs (r.requestOf specifier) = some q) :
    r.externalRequest fs o specifier = none ↔
      o.normalInPlace = true ∨ r.isAskedFor fs o specifier q = true ∨
        r.isOutside fs o (some q) = false := by
  unfold isAskedFor
  unfold requestOf at hincluded hfile ⊢
  simp only [externalRequest, hincluded, hfile, Option.isNone_some, Bool.false_and, Bool.or_false,
    Bool.false_eq_true, if_false]
  split
  next hexcluded => simp [hexcluded]
  next hexcluded =>
    split
    next hentry => simp [hentry]
    next hentry =>
      split
      next hexternal =>
        simp only [Bool.and_eq_true, Bool.not_eq_true'] at hexternal
        obtain ⟨⟨⟨hplace, hextension⟩, hloaders⟩, houtside⟩ := hexternal
        rw [hplace, Bool.eq_false_iff.mpr hexcluded, Bool.eq_false_iff.mpr hentry, hextension,
          hloaders, houtside]
        simp
      next hexternal =>
        have hinternal := Bool.eq_false_iff.mpr hexternal
        simp only [Bool.and_eq_false_iff, Bool.not_eq_false'] at hinternal
        simp only [true_iff, Bool.or_eq_true, Bool.not_eq_true']
        rcases hinternal with ((hplace | hextension) | hloaders) | hinside
        · exact .inl hplace
        · exact .inr (.inl (.inl (.inr hextension)))
        · exact .inr (.inl (.inr hloaders))
        · exact .inr (.inr hinside)

/-- What becomes of a module whose plain file is one of the project or ignored, if it is not
asked for and libraries are not in place.  It is internal if the file is not ignored and its
path starts with the context.  Otherwise an ignored file counts as none: the module is
external if all files that are looked at are ignored, and else the file that is found instead
tells. -/
theorem externalRequest_of_plainFile (hp : r.plainFile fs o specifier = some p)
    (hproject : (fs.isIn p [r.context] = true ∧ fs.isIn p (r.libraryLocations fs o) = false) ∨
      fs.isIn p r.ignored = true) :
    (fs.isIn p r.ignored = false →
      (r.externalRequest fs o specifier = none ↔ o.normalInPlace = true ∨
        r.isAskedFor fs o specifier p = true ∨ p.startsWith r.context = true)) ∧
    ((∀ c ∈ (r.forExternals o.requestContext).candidates fs
          ((r.forExternals o.requestContext).rewrite (r.requestOf specifier)),
        fs.isFile c.path = true → fs.isIn c.path r.ignored = true) →
      (r.externalRequest fs o specifier = none ↔ o.normalInPlace = true)) ∧
    (∀ q, (r.forExternals o.requestContext).resolve fs (r.requestOf specifier) = some q →
      (r.externalRequest fs o specifier = none ↔ o.normalInPlace = true ∨
        r.isAskedFor fs o specifier q = true ∨
        (q.startsWith r.context = true ∧ fs.isIn q (r.libraryLocations fs o) = false))) := by
  refine ⟨?_, ?_, ?_⟩
  · intro hkept
    have hlocations : fs.isIn p (r.libraryLocations fs o) = false := by
      rcases hproject with ⟨-, hlocations⟩ | hignored
      · exact hlocations
      · rw [hkept] at hignored
        cases hignored
    rw [externalRequest_eq_none_iff hincluded (resolve_of_unignoring hp hkept),
      isOutside_eq_false_iff, and_iff_left hlocations]
  · intro hall
    exact externalRequest_eq_none_of_noFile hincluded (resolve_of_allIgnored hall)
  · intro q hq
    rw [externalRequest_eq_none_iff hincluded hq, isOutside_eq_false_iff]

end

/-- A project with a script and a hook, and another directory beside it. -/
def projectAndOther : FileSystem :=
  ⟨[("project", .directory [(".git", .directory [("hook.js", .file .empty)]),
      ("main.js", .file .empty)]),
    ("other", .directory [("x", .directory [])])], ⟨"/"⟩⟩

/-- The usual resolver of the project.  It ignores `.git`. -/
def projectResolver : Resolver := ofContext projectAndOther ⟨"/project"⟩

/-- Requests from the other directory. -/
def fromOther : ExternalOptions := .ofContext projectAndOther ⟨"/other"⟩ []

/-- The script is internal where its path leads into the project. -/
theorem externalRequest_script :
    projectResolver.plainFile projectAndOther fromOther "../project/main" =
        some ⟨"/project/main.js"⟩ ∧
      projectResolver.externalRequest projectAndOther fromOther "../project/main" = none := by
  have hp : projectResolver.plainFile projectAndOther fromOther "../project/main" =
      some ⟨"/project/main.js"⟩ := by decide +kernel
  have hproject := externalRequest_of_plainFile (by decide +kernel) hp
    (.inl ⟨by decide +kernel, by decide +kernel⟩)
  exact ⟨hp, (hproject.1 (by decide +kernel)).mpr (.inr (.inr (by decide +kernel)))⟩

/-- The hook is external, although it lies in an ignored directory.  So is the script, if it
is requested by a way through the other directory. -/
theorem externalRequest_hook_and_detour :
    (projectResolver.plainFile projectAndOther fromOther "../project/.git/hook" =
        some ⟨"/project/.git/hook.js"⟩ ∧
      projectAndOther.isIn ⟨"/project/.git/hook.js"⟩ projectResolver.ignored = true ∧
      Selector.anySelects fromOther.included
        (projectResolver.requestOf "../project/.git/hook") = false ∧
      projectResolver.externalRequest projectAndOther fromOther "../project/.git/hook" ≠ none) ∧
    projectResolver.plainFile projectAndOther fromOther "x/../../project/main" =
        some ⟨"/other/x/../../project/main.js"⟩ ∧
      projectAndOther.isIn ⟨"/other/x/../../project/main.js"⟩ [projectResolver.context] = true ∧
      projectAndOther.isIn ⟨"/other/x/../../project/main.js"⟩
        (projectResolver.libraryLocations projectAndOther fromOther) = false ∧
      Selector.anySelects fromOther.included
        (projectResolver.requestOf "x/../../project/main") = false ∧
      projectResolver.externalRequest projectAndOther fromOther "x/../../project/main" ≠ none := by
  have hscript : projectResolver.plainFile projectAndOther fromOther "x/../../project/main" =
      some ⟨"/other/x/../../project/main.js"⟩ := by decide +kernel
  have hfound := resolve_of_unignoring hscript (by decide +kernel)
  have hincluded : Selector.anySelects fromOther.included
      (projectResolver.requestOf "x/../../project/main") = false := by decide +kernel
  refine ⟨⟨?_, ?_, ?_, ?_⟩, hscript, ?_, ?_, hincluded, ?_⟩
  · decide +kernel
  · decide +kernel
  · decide +kernel
  · decide +kernel
  · decide +kernel
  · decide +kernel
  · rw [Ne, externalRequest_eq_none_iff hincluded hfound]
    decide +kernel

end Resolver

end BundleConfig
