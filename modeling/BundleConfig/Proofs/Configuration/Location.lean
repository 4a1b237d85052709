import BundleConfig.Proofs.Configuration.Stages
import BundleConfig.Proofs.Entry.Accounting

/-!
# Looking up one specifier

A configuration looks up a specifier with the resolver of the entries, with one
change: the base is the context.  A request that is absolute or relative does not see
the base.  A bare one is looked for there last, after the module directories.

So an entry is found again under its request, unless it is found in the base and not in
a module directory.  Then what is found is what the context has at the request.
-/

namespace BundleConfig

namespace Resolver

variable {r : Resolver} {fs : FileSystem} {request specifier : String} {p : Path}

/-- Neither absolute nor relative. -/
def IsBare (request : String) : Prop :=
  (⟨request⟩ : Path).isAbsolute = false ∧ Specifier.isRelative request = false

/-- The places a bare request may denote in the module directories, best first. -/
def modulePlaces (r : Resolver) (request : String) : List Path :=
  (r.context.ancestors Package.maxAscent).flatMap fun directory =>
    r.moduleDirectories.map fun name => (directory.entry name).join ⟨request⟩

theorem places_bare (h : IsBare request) :
    r.places fs request = r.modulePlaces request ++ [r.base.join ⟨request⟩] := by
  rw [places, if_neg (by rw [h.1]; decide), if_neg (by rw [h.2]; decide)]
  rfl

/-- A request that is not bare denotes one place, wherever the base is. -/
theorem places_seenFrom (h : ¬ IsBare request) :
    (r.seenFrom r.context).places fs request = r.places fs request := by
  unfold places
  dsimp only
  split
  · rfl
  next habsolute =>
    split
    · rfl
    next hrelative => exact absurd ⟨by simpa using habsolute, by simpa using hrelative⟩ h

/-- What is at a place does not depend on the context and the base. -/
theorem fileAt_seenFrom (directory : Path) : (r.seenFrom directory).fileAt fs = r.fileAt fs := rfl

/-- With the context as base, a file is found again unless it is found in the base
only. -/
theorem resolve_seenFrom_iff (h : r.resolve fs specifier = some p) :
    (r.seenFrom r.context).resolve fs specifier = some p ↔
      ¬ IsBare (r.rewrite specifier) ∨
        (∃ place ∈ r.modulePlaces (r.rewrite specifier), ∃ q, r.fileAt fs place = some q) ∨
        r.fileAt fs (r.context.join ⟨r.rewrite specifier⟩) = some p := by
  have hrewrite : (r.seenFrom r.context).rewrite specifier = r.rewrite specifier := rfl
  unfold resolve at h ⊢
  rw [hrewrite, fileAt_seenFrom]
  dsimp only at h ⊢
  split at h
  · cases h
  next hempty =>
    rw [if_neg hempty]
    by_cases hbare : IsBare (r.rewrite specifier)
    · have hplaces : (r.seenFrom r.context).modulePlaces (r.rewrite specifier) =
          r.modulePlaces (r.rewrite specifier) := rfl
      rw [places_bare hbare, List.findSome?_append] at h
      rw [places_bare hbare, hplaces, List.findSome?_append]
      cases hmodules : (r.modulePlaces (r.rewrite specifier)).findSome? (r.fileAt fs) with
      | some q =>
          rw [hmodules] at h
          obtain ⟨place, hplace, hq⟩ := List.exists_of_findSome?_eq_some hmodules
          exact iff_of_true h (.inr (.inl ⟨place, hplace, q, hq⟩))
      | none =>
          have hnone : ¬ ∃ place ∈ r.modulePlaces (r.rewrite specifier),
              ∃ q, r.fileAt fs place = some q := by
            rintro ⟨place, hplace, q, hq⟩
            rw [List.findSome?_eq_none_iff.mp hmodules place hplace] at hq
            cases hq
          simp [hbare, hnone, seenFrom]
    · rw [places_seenFrom hbare]
      exact iff_of_true h (.inl hbare)

end Resolver

namespace Configuration

variable {fs after : FileSystem} {o : Purpose} {c : Configuration} {name : String}
  {ms : List EntryModule} {m : EntryModule} {p : Path}

/-- The file of an entry is what its request resolves to. -/
theorem resolve_entry (h : load fs o = (after, .ok c)) (hmem : (name, ms) ∈ c.bundle.modules)
    (hm : m ∈ ms) (hfile : m.file = some p) : c.resolver.resolve after m.request = some p := by
  obtain ⟨g, -, rfl, ⟨s⟩⟩ := exists_stages h
  obtain ⟨given, -, hb⟩ := bind_eq_ok.mp s.isBundled
  rw [← s.resolver]
  exact EntryFinder.resolve_request hb hmem hm hfile

/-- The request of an entry leads to the file of the entry exactly when it is not bare,
or a module directory has it, or the context has that file at the request. -/
theorem modulePath_request_iff (h : load fs o = (after, .ok c))
    (hmem : (name, ms) ∈ c.bundle.modules) (hm : m ∈ ms) (hfile : m.file = some p) :
    c.modulePath after m.request none = some p ↔
      ¬ Resolver.IsBare (c.resolver.rewrite m.request) ∨
        (∃ place ∈ c.resolver.modulePlaces (c.resolver.rewrite m.request),
          ∃ q, c.resolver.fileAt after place = some q) ∨
        c.resolver.fileAt after (c.resolver.context.join ⟨c.resolver.rewrite m.request⟩) = some p :=
  Resolver.resolve_seenFrom_iff (resolve_entry h hmem hm hfile)

/-- A project with one script in the directory of its sources. -/
def oneSource : FileSystem := ⟨[("source", .directory [("index.js", .file .empty)])], ⟨"/"⟩⟩

/-- The options that give the script twice, first as seen from its directory. -/
def twoRequests : Purpose :=
  { override := some ("\x7b\"injection\":\x7b\"entry\":[\"index.js\",\"./source/index.js\"]\x7d,"
      ++ "\"module\":\x7b\"directoryNames\":[]\x7d\x7d")
    now := ⟨0⟩ }

/-- What is looked at of the configuration. -/
def showsRequests (left : FileSystem × Configuration) : Bool :=
  left.2.bundle.modules.map (fun entry => (entry.1, entry.2.map fun m => (m.request, m.file))) ==
      [("index", [("index.js", some ⟨"/source/index.js"⟩),
        ("./source/index.js", some ⟨"/source/index.js"⟩)])] &&
    left.2.modulePath left.1 "index.js" none == none &&
    left.2.resolver.rewrite "./source/index.js" == "./source/index.js"

theorem exists_twoRequests : ∃ after c ms, load oneSource twoRequests = (after, .ok c) ∧
    c.bundle.modules = [("index", ms)] ∧
    ms.map (fun m => (m.request, m.file)) = [("index.js", some ⟨"/source/index.js"⟩),
      ("./source/index.js", some ⟨"/source/index.js"⟩)] ∧
    c.modulePath after "index.js" none = none ∧
    c.resolver.rewrite "./source/index.js" = "./source/index.js" := by
  have hloaded : (loaded? oneSource twoRequests).any showsRequests = true := by
    decide +kernel
  obtain ⟨after, c, h, hcheck⟩ := exists_of_any hloaded
  simp only [showsRequests, Bool.and_eq_true, beq_iff_eq] at hcheck
  obtain ⟨⟨hmodules, hpath⟩, hrewrite⟩ := hcheck
  obtain ⟨⟨name, ms⟩, hms, hentry⟩ := List.map_eq_singleton_iff.mp hmodules
  obtain ⟨rfl, hrequests⟩ := Prod.mk.inj hentry
  exact ⟨after, c, ms, h, hms, hrequests, hpath, hrewrite⟩

/-- The script is found again as seen from the context. -/
theorem modulePath_relativeRequest : ∃ after c, load oneSource twoRequests = (after, .ok c) ∧
    c.modulePath after "./source/index.js" none = some ⟨"/source/index.js"⟩ := by
  obtain ⟨after, c, ms, h, hmodules, hrequests, -, hrewrite⟩ := exists_twoRequests
  obtain ⟨m, hm, heq⟩ : ∃ m ∈ ms, (m.request, m.file) =
      ("./source/index.js", some ⟨"/source/index.js"⟩) :=
    List.mem_map.mp (by rw [hrequests]; exact List.mem_cons_of_mem _ (List.mem_singleton_self _))
  obtain ⟨hrequest, hfile⟩ := Prod.mk.inj heq
  have hmem : ("index", ms) ∈ c.bundle.modules := by
    rw [hmodules]
    exact List.mem_singleton_self _
  have hbare : ¬ Resolver.IsBare (c.resolver.rewrite m.request) := by
    rw [hrequest, hrewrite]
    exact fun hbare => absurd hbare.2 (by decide)
  refine ⟨after, c, h, ?_⟩
  rw [← hrequest]
  exact (modulePath_request_iff h hmem hm hfile).mpr (.inl hbare)

/-- The same script is an entry under a bare request, and is not found under it. -/
theorem modulePath_bareRequest : ∃ after c, load oneSource twoRequests = (after, .ok c) ∧
    ∃ ms, ("index", ms) ∈ c.bundle.modules ∧ ∃ m ∈ ms, m.request = "index.js" ∧
      m.file = some ⟨"/source/index.js"⟩ ∧ c.modulePath after m.request none = none := by
  obtain ⟨after, c, ms, h, hmodules, hrequests, hpath, -⟩ := exists_twoRequests
  obtain ⟨m, hm, heq⟩ : ∃ m ∈ ms, (m.request, m.file) =
      ("index.js", some ⟨"/source/index.js"⟩) :=
    List.mem_map.mp (by rw [hrequests]; exact List.mem_cons_self)
  obtain ⟨hrequest, hfile⟩ := Prod.mk.inj heq
  refine ⟨after, c, h, ms, ?_, m, hm, hrequest, hfile, ?_⟩
  · rw [hmodules]
    exact List.mem_singleton_self _
  · rw [hrequest]
    exact hpath

end Configuration

end BundleConfig
