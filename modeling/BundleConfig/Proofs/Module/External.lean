import BundleConfig.Module.External
import BundleConfig.Proofs.Module.Candidates
import BundleConfig.Proofs.Specifier.Basic

/-!
# Entries that stay internal

Whether a module is external is decided by two searches.  The module itself is looked for
with the external extensions only and without rewriting, since its request is rewritten
before.  The entries are looked for in the usual way.

Where the two searches *see alike*, the first one goes through the candidates of the second
one that have an external extension.  So an entry stays internal if the candidate that it is
found by is one of these, and it is external if no file at all is (`externalRequest_of_entry`).
-/

namespace BundleConfig

namespace Resolver

variable {r : Resolver} {fs : FileSystem} {o : ExternalOptions} {specifier : String} {p : Path}

/-! ## Outcomes -/

/-- The request of a specifier with its query, rewritten. -/
def requestOf (r : Resolver) (specifier : String) : String :=
  r.rewriting.apply (String.ofList (Specifier.ofText specifier).afterLoaders)

theorem sameFile_self (p : Path) : sameFile (some p) (some p) = true :=
  beq_self_eq_true p.components

/-- A module with the file of an entry is internal, if nothing is external by itself. -/
theorem externalRequest_of_file (hentry : specifier ∈ o.entries) (hincluded : o.included = [])
    (hp : (r.seenFrom o.requestContext).resolve fs specifier = some p)
    (hfile : (r.forExternals o.requestContext).resolve fs (r.requestOf specifier) = some p) :
    r.externalRequest fs o specifier = none := by
  have hany : o.entries.any (fun entry =>
      sameFile ((r.seenFrom o.requestContext).resolve fs entry) (some p)) = true :=
    List.any_eq_true.mpr ⟨specifier, hentry, hp ▸ sameFile_self p⟩
  unfold requestOf at hfile
  simp [externalRequest, hincluded, Selector.anySelects, hfile, hany]

/-- Where libraries are in place nothing is external by itself. -/
theorem externalRequest_of_normalInPlace (hincluded : o.included = [])
    (hplace : o.normalInPlace = true) : r.externalRequest fs o specifier = none := by
  simp [externalRequest, hincluded, Selector.anySelects, hplace]

/-- Where they are not, a module without a file is external. -/
theorem externalRequest_of_noFile (hplace : o.normalInPlace = false)
    (hfile : (r.forExternals o.requestContext).resolve fs (r.requestOf specifier) = none) :
    (r.externalRequest fs o specifier).isSome = true := by
  unfold requestOf at hfile
  simp [externalRequest, hplace, hfile]

/-! ## Two searches -/

/-- Both searches for a specifier look for one request at the same stems, and they try the
external extensions in the same order. -/
structure SeesAlike (r : Resolver) (fs : FileSystem) (directory : Path) (specifier : String) :
    Prop where
  /-- The request is the same. -/
  request : Specifier.bareRequest (r.requestOf specifier) = r.rewrite specifier
  /-- The stems are the same. -/
  stems : ∀ place,
    (r.forExternals directory).stems fs place = (r.seenFrom directory).stems fs place
  /-- The external extensions are internal ones. -/
  extensions : "" :: r.endings.externalExtensions =
    ("" :: r.endings.internalExtensions).filter (· ∈ "" :: r.endings.externalExtensions)

/-- Without rewriting both searches see alike, if the external extensions are internal ones. -/
theorem seesAlike_of_plain (hrewriting : r.rewriting = {})
    (hextensions : "" :: r.endings.externalExtensions = ("" :: r.endings.internalExtensions).filter
      (· ∈ "" :: r.endings.externalExtensions)) (directory : Path) (specifier : String) :
    r.SeesAlike fs directory specifier where
  request := by
    rw [requestOf, rewrite, hrewriting]
    exact Specifier.bareRequest_afterLoaders specifier
  stems := fun place => by
    obtain ⟨rewriting, _, _, _, _, _, _, _, _⟩ := r
    obtain rfl : rewriting = {} := hrewriting
    rfl
  extensions := hextensions

/-- The extension is tried for modules that may be external. -/
def TriesExternally (r : Resolver) (extension : String) : Prop :=
  extension ∈ "" :: r.endings.externalExtensions

instance (extension : String) : Decidable (r.TriesExternally extension) :=
  inferInstanceAs (Decidable (_ ∈ _))

/-- The candidates of a specifier that are looked at for entries, best first. -/
def entryCandidates (r : Resolver) (fs : FileSystem) (directory : Path) (specifier : String) :
    List Candidate :=
  (r.seenFrom directory).candidates fs (r.rewrite specifier)

variable {directory : Path}

/-- The candidates for a module are those for the entry with an external extension. -/
theorem SeesAlike.candidates_eq (h : r.SeesAlike fs directory specifier) :
    (r.forExternals directory).candidates fs (r.rewrite specifier) =
      (r.entryCandidates fs directory specifier).filter fun c =>
        r.TriesExternally c.extension := by
  have hextensions : ∀ place stem suffix,
      ("" :: r.endings.externalExtensions).map (Candidate.mk place stem suffix) =
        (("" :: r.endings.internalExtensions).map (Candidate.mk place stem suffix)).filter
          fun c => r.TriesExternally c.extension := by
    intro place stem suffix
    rw [List.filter_map]
    exact congrArg _ h.extensions
  simp only [entryCandidates, candidates, List.filter_flatMap, h.stems]
  exact congrArg (List.flatMap · _) (funext fun place =>
    congrArg (List.flatMap · _) (funext fun stem =>
      congrArg (List.flatMap · _) (funext fun suffix => hextensions place stem suffix)))

theorem SeesAlike.rewrite_eq (h : r.SeesAlike fs directory specifier) :
    (r.forExternals directory).rewrite (r.requestOf specifier) = r.rewrite specifier := h.request

/-- If an entry is found by an external extension, then so is the module. -/
theorem SeesAlike.resolve_eq_some (h : r.SeesAlike fs directory specifier) {c : Candidate}
    {before after : List Candidate} (hrequest : r.rewrite specifier ≠ "")
    (hsplit : r.entryCandidates fs directory specifier = before ++ c :: after)
    (hadmissible : r.Admissible fs c.path) (hbefore : ∀ b ∈ before, ¬ r.Admissible fs b.path)
    (hc : r.TriesExternally c.extension) :
    (r.forExternals directory).resolve fs (r.requestOf specifier) = some c.path := by
  rw [resolve_eq_some_iff, h.rewrite_eq]
  refine ⟨hrequest, before.filter fun c => r.TriesExternally c.extension, c,
    after.filter fun c => r.TriesExternally c.extension, ?_, rfl, hadmissible, fun b hb => ?_⟩
  · have heq := h.candidates_eq
    rw [hsplit, List.filter_append, List.filter_cons, if_pos (decide_eq_true hc)] at heq
    exact heq
  · exact hbefore b (List.mem_filter.mp hb).1

/-- If no file has an external extension, then the module is not found. -/
theorem SeesAlike.resolve_eq_none (h : r.SeesAlike fs directory specifier)
    (hnone : ∀ c ∈ r.entryCandidates fs directory specifier, r.TriesExternally c.extension →
      ¬ r.Admissible fs c.path) :
    (r.forExternals directory).resolve fs (r.requestOf specifier) = none := by
  rw [resolve_eq_none_iff, h.rewrite_eq]
  refine .inr fun c hc => ?_
  have hmem : c ∈ (r.entryCandidates fs directory specifier).filter fun c =>
    r.TriesExternally c.extension := h.candidates_eq ▸ hc
  obtain ⟨hmem, htried⟩ := List.mem_filter.mp hmem
  exact hnone c hmem (of_decide_eq_true htried)

/-- An entry with a file stays internal where libraries are in place.  Otherwise, where both
searches see alike, it does if it is found by an external extension, and it is external if no
file has one. -/
theorem externalRequest_of_entry (hentry : specifier ∈ o.entries) (hincluded : o.included = [])
    (hp : (r.seenFrom o.requestContext).resolve fs specifier = some p) :
    (o.normalInPlace = true → r.externalRequest fs o specifier = none) ∧
      (r.SeesAlike fs o.requestContext specifier →
        (∃ before c after,
          r.entryCandidates fs o.requestContext specifier = before ++ c :: after ∧
          c.path = p ∧ r.Admissible fs p ∧ (∀ b ∈ before, ¬ r.Admissible fs b.path) ∧
          (r.TriesExternally c.extension → r.externalRequest fs o specifier = none)) ∧
        (o.normalInPlace = false →
          (∀ c ∈ r.entryCandidates fs o.requestContext specifier,
            r.TriesExternally c.extension → ¬ r.Admissible fs c.path) →
          (r.externalRequest fs o specifier).isSome = true)) := by
  refine ⟨externalRequest_of_normalInPlace hincluded, fun halike => ⟨?_, fun hplace hnone =>
    externalRequest_of_noFile hplace (halike.resolve_eq_none hnone)⟩⟩
  obtain ⟨hrequest, before, c, after, hsplit, rfl, hadmissible, hbefore⟩ :=
    resolve_eq_some_iff.mp hp
  refine ⟨before, c, after, hsplit, rfl, hadmissible, hbefore, fun hc => ?_⟩
  exact externalRequest_of_file hentry hincluded hp
    (halike.resolve_eq_some hrequest hsplit hadmissible hbefore hc)

/-- A root directory with a script and a data file. -/
def scriptAndData : FileSystem :=
  ⟨[("main.js", .file .empty), ("data.json", .file .empty)], ⟨"/"⟩⟩

/-- The usual resolver there.  Its external extension is the one of scripts. -/
def scriptResolver : Resolver := ofContext scriptAndData ⟨"/"⟩

/-- Both files are entries. -/
def bothEntries : ExternalOptions := .ofContext scriptAndData ⟨"/"⟩ ["./main", "./data"]

/-- The script stays internal. -/
theorem externalRequest_main :
    "./main" ∈ bothEntries.entries ∧ bothEntries.included = [] ∧
      (scriptResolver.seenFrom bothEntries.requestContext).resolve scriptAndData "./main" =
        some ⟨"/main.js"⟩ ∧
      scriptResolver.externalRequest scriptAndData bothEntries "./main" = none := by
  have hentry : "./main" ∈ bothEntries.entries := by decide
  have hp : (scriptResolver.seenFrom bothEntries.requestContext).resolve scriptAndData "./main" =
      some ⟨"/main.js"⟩ := by decide +kernel
  have halike : scriptResolver.SeesAlike scriptAndData bothEntries.requestContext "./main" :=
    seesAlike_of_plain rfl (by decide) _ _
  have hscript : ∀ c ∈ scriptResolver.entryCandidates scriptAndData bothEntries.requestContext
      "./main", c.path = ⟨"/main.js"⟩ → scriptResolver.TriesExternally c.extension := by
    decide +kernel
  obtain ⟨before, c, after, hsplit, hpath, -, -, hinternal⟩ :=
    ((externalRequest_of_entry hentry rfl hp).2 halike).1
  refine ⟨hentry, rfl, hp, hinternal (hscript c ?_ hpath)⟩
  exact hsplit ▸ List.mem_append_cons_self

/-- The resolver with an alias for the script. -/
def aliasResolver : Resolver :=
  { scriptResolver with rewriting := { aliases := [("a$", "./main")] } }

/-- The script under its alias, requested with a query. -/
def aliasEntry : ExternalOptions := .ofContext scriptAndData ⟨"/"⟩ ["a?x"]

/-- The data file is external, although it is an entry that is found.  So is the script, where
the entry is its alias with a query: the query hides the alias, but not from the search for the
entry. -/
theorem externalRequest_data_and_alias :
    ("./data" ∈ bothEntries.entries ∧ bothEntries.included = [] ∧
      (scriptResolver.seenFrom bothEntries.requestContext).resolve scriptAndData "./data" =
        some ⟨"/data.json"⟩ ∧
      scriptResolver.externalRequest scriptAndData bothEntries "./data" = some "./data") ∧
      "a?x" ∈ aliasEntry.entries ∧ aliasEntry.included = [] ∧
        (aliasResolver.seenFrom aliasEntry.requestContext).resolve scriptAndData "a?x" =
          some ⟨"/main.js"⟩ ∧
        aliasResolver.externalRequest scriptAndData aliasEntry "a?x" = some "a?x" :=
  ⟨⟨by decide, rfl, by decide +kernel, by decide +kernel⟩, by decide, rfl, by decide +kernel,
    by decide +kernel⟩

end Resolver

end BundleConfig
