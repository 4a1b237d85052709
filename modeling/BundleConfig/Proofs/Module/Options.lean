import BundleConfig.Proofs.Module.Internal

/-!
# What the options decide

Whether a module is external depends on the options in one direction each.  Options *lean
inward* from other ones if they include less, exclude more, have more entries and keep more
libraries in place, and look from and at the same directories.  What is internal stays so if
the options lean inward (`externalRequest_of_leansInward`), and what stays external keeps its
request.

*Modules without a file.*  A module that is not found counts as outside of the project where
dynamic libraries are in place, so that more libraries in place would make it external.  That
never shows: without a file nothing is asked but whether normal libraries are in place.
-/

namespace BundleConfig

/-- The second options ask for as much of the bundle as the first ones, or for more. -/
structure ExternalOptions.LeansInward (o o' : ExternalOptions) : Prop where
  /-- Requests are made from the same directory. -/
  requestContext : o'.requestContext = o.requestContext
  /-- External requests are seen from the same directory. -/
  reference : o'.reference = o.reference
  /-- The same modules count as libraries. -/
  locations : o'.locations = o.locations
  /-- No selector is added to the included ones. -/
  included : o'.included ⊆ o.included
  /-- No selector is taken from the excluded ones. -/
  excluded : o.excluded ⊆ o'.excluded
  /-- Every entry stays one. -/
  entries : o.entries ⊆ o'.entries
  /-- Libraries stay in place. -/
  normalInPlace : o.normalInPlace = true → o'.normalInPlace = true
  /-- Modules with loaders stay in place. -/
  dynamicInPlace : o.dynamicInPlace = true → o'.dynamicInPlace = true

namespace Resolver

variable {r : Resolver} {fs : FileSystem} {o o' : ExternalOptions} {specifier request : String}

/-- The request of an external module, seen from the reference directory. -/
def requestFrom (r : Resolver) (fs : FileSystem) (o : ExternalOptions) (specifier : String) :
    String :=
  r.rewriting.rebase fs (r.requestOf specifier) o.requestContext o.reference o.locations

/-- An external module has one request, whatever made it external. -/
theorem externalRequest_eq_some_iff : r.externalRequest fs o specifier = some request ↔
    r.externalRequest fs o specifier ≠ none ∧ request = r.requestFrom fs o specifier := by
  unfold externalRequest requestFrom requestOf
  dsimp only
  split
  · simp [eq_comm]
  · split
    · simp
    · split
      · simp
      · split
        · simp [eq_comm]
        · simp

/-- What an include selector is about is external. -/
theorem externalRequest_of_included
    (h : Selector.anySelects o.included (r.requestOf specifier) = true) :
    r.externalRequest fs o specifier ≠ none := by
  unfold requestOf at h
  simp [externalRequest, h]

/-- A module that is not external matches no include selector. -/
theorem not_included_of_eq_none (h : r.externalRequest fs o specifier = none) :
    Selector.anySelects o.included (r.requestOf specifier) = false :=
  Bool.eq_false_iff.mpr fun hincluded => externalRequest_of_included hincluded h

/-- What is asked for stays so if the options lean inward. -/
theorem isAskedFor_of_leansInward (h : o.LeansInward o') {p : Path}
    (hasked : r.isAskedFor fs o specifier p = true) : r.isAskedFor fs o' specifier p = true := by
  simp only [isAskedFor, Bool.or_eq_true, Bool.and_eq_true] at hasked ⊢
  rw [h.requestContext]
  rcases hasked with ((hexcluded | hentry) | hextension) | ⟨hplace, hloaders⟩
  · exact .inl (.inl (.inl (any_of_subset h.excluded hexcluded)))
  · exact .inl (.inl (.inr (any_of_subset h.entries hentry)))
  · exact .inl (.inr hextension)
  · exact .inr ⟨h.dynamicInPlace hplace, hloaders⟩

/-- What is internal stays internal if the options lean inward. -/
theorem externalRequest_eq_none_of_leansInward (h : o.LeansInward o')
    (hnone : r.externalRequest fs o specifier = none) :
    r.externalRequest fs o' specifier = none := by
  have hold := not_included_of_eq_none hnone
  have hnew : Selector.anySelects o'.included (r.requestOf specifier) = false := by
    refine Bool.eq_false_iff.mpr fun hselects => ?_
    exact Bool.eq_false_iff.mp hold (any_of_subset h.included hselects)
  cases hfile : (r.forExternals o.requestContext).resolve fs (r.requestOf specifier) with
  | none =>
      rw [externalRequest_eq_none_of_noFile hold hfile] at hnone
      rw [← h.requestContext] at hfile
      exact (externalRequest_eq_none_of_noFile hnew hfile).mpr (h.normalInPlace hnone)
  | some p =>
      rw [externalRequest_eq_none_iff hold hfile] at hnone
      rw [← h.requestContext] at hfile
      refine (externalRequest_eq_none_iff hnew hfile).mpr ?_
      rcases hnone with hplace | hasked | hinside
      · exact .inl (h.normalInPlace hplace)
      · exact .inr (.inl (isAskedFor_of_leansInward h hasked))
      · rw [isOutside_eq_false_iff, libraryLocations, ← h.locations] at hinside
        exact .inr (.inr (isOutside_eq_false_iff.mpr hinside))

/-- What is still external though the options lean inward was external with the same
request. -/
theorem externalRequest_of_leansInward (h : o.LeansInward o')
    (hrequest : r.externalRequest fs o' specifier = some request) :
    r.externalRequest fs o specifier = some request := by
  obtain ⟨hexternal, rfl⟩ := externalRequest_eq_some_iff.mp hrequest
  refine externalRequest_eq_some_iff.mpr ⟨fun hnone => ?_, ?_⟩
  · exact hexternal (externalRequest_eq_none_of_leansInward h hnone)
  · rw [requestFrom, requestFrom, h.requestContext, h.reference, h.locations]

/-- Each option decides in one direction.  With more include selectors an external module stays
external, with the same request.  With more exclude selectors or more entries an internal
module stays internal, and so it does when normal libraries or modules with loaders are put in
place. -/
theorem externalRequest_monotone (r : Resolver) (fs : FileSystem) (o : ExternalOptions)
    (specifier : String) :
    (∀ included, o.included ⊆ included → ∀ request,
      r.externalRequest fs o specifier = some request →
        r.externalRequest fs { o with included := included } specifier = some request) ∧
    (∀ excluded, o.excluded ⊆ excluded → r.externalRequest fs o specifier = none →
      r.externalRequest fs { o with excluded := excluded } specifier = none) ∧
    (∀ entries, o.entries ⊆ entries → r.externalRequest fs o specifier = none →
      r.externalRequest fs { o with entries := entries } specifier = none) ∧
    (r.externalRequest fs { o with normalInPlace := false } specifier = none →
      r.externalRequest fs { o with normalInPlace := true } specifier = none) ∧
    (r.externalRequest fs { o with dynamicInPlace := false } specifier = none →
      r.externalRequest fs { o with dynamicInPlace := true } specifier = none) := by
  refine ⟨fun included h request => ?_, fun excluded h => ?_, fun entries h => ?_, ?_, ?_⟩
  · exact externalRequest_of_leansInward
      ⟨rfl, rfl, rfl, h, List.Subset.refl _, List.Subset.refl _, id, id⟩
  · exact externalRequest_eq_none_of_leansInward
      ⟨rfl, rfl, rfl, List.Subset.refl _, h, List.Subset.refl _, id, id⟩
  · exact externalRequest_eq_none_of_leansInward
      ⟨rfl, rfl, rfl, List.Subset.refl _, List.Subset.refl _, h, id, id⟩
  · exact externalRequest_eq_none_of_leansInward
      ⟨rfl, rfl, rfl, List.Subset.refl _, List.Subset.refl _, List.Subset.refl _, fun _ => rfl, id⟩
  · exact externalRequest_eq_none_of_leansInward
      ⟨rfl, rfl, rfl, List.Subset.refl _, List.Subset.refl _, List.Subset.refl _, id, fun _ => rfl⟩

/-- Requests from the project with two libraries, where nothing is in place. -/
def nothingInPlace : ExternalOptions :=
  { ExternalOptions.ofContext twoLibraries ⟨"/project"⟩ [] with dynamicInPlace := false }

/-- The library stays external with a selector for it, and the script stays internal with a
selector and an entry for it and with libraries in place, with and without loaders. -/
theorem externalRequest_libraryAndScript :
    (libraryResolver.externalRequest twoLibraries nothingInPlace "library" = some "library" ∧
      libraryResolver.externalRequest twoLibraries
        { nothingInPlace with included := [.exact "library"] } "library" = some "library") ∧
    libraryResolver.externalRequest twoLibraries nothingInPlace "a!./main" = none ∧
      libraryResolver.externalRequest twoLibraries
        { nothingInPlace with excluded := [.exact "./main"] } "a!./main" = none ∧
      libraryResolver.externalRequest twoLibraries
        { nothingInPlace with entries := ["./main"] } "a!./main" = none ∧
      libraryResolver.externalRequest twoLibraries
        { nothingInPlace with normalInPlace := true } "a!./main" = none ∧
      libraryResolver.externalRequest twoLibraries
        { nothingInPlace with dynamicInPlace := true } "a!./main" = none := by
  have hlibrary : libraryResolver.externalRequest twoLibraries nothingInPlace "library" =
      some "library" := by decide +kernel
  have hscript : libraryResolver.externalRequest twoLibraries nothingInPlace "a!./main" = none := by
    decide +kernel
  have hstays := externalRequest_monotone libraryResolver twoLibraries nothingInPlace "library"
  obtain ⟨-, hexcluded, hentries, hnormal, hdynamic⟩ :=
    externalRequest_monotone libraryResolver twoLibraries nothingInPlace "a!./main"
  refine ⟨⟨hlibrary, hstays.1 _ (List.nil_subset _) _ hlibrary⟩, hscript, ?_, ?_, ?_, ?_⟩
  · exact hexcluded _ (List.nil_subset _) hscript
  · exact hentries _ (List.nil_subset _) hscript
  · exact hnormal hscript
  · exact hdynamic hscript

end Resolver

end BundleConfig
