import BundleConfig.Entry.Discovery
import BundleConfig.Proofs.FileSystem.Lookup
import BundleConfig.Proofs.Module.Candidates
import BundleConfig.Proofs.Specifier.Basic

/-!
# Files said as specifiers

A file is said as seen from the context, and the specifier is looked up again.  What is
said is a rendering.  If it is one of a text the two are inverse: the specifier denotes one
place, which is the path of the file (`EntryFinder.specifierOf_denotes`).

*Plain paths.*  In a specifier `!` ends a loader, `?` starts a query and `.webpack[`
starts a layer.  A path without these is its own bare request.

*Plain finders.*  Where no request is rewritten and no suffix is tried before the text
as it is, the first candidate of a specifier is the file.  Later candidates do not
matter, since the file is there and not ignored (`EntryFinder.Plain.resolve`).
-/

namespace BundleConfig

open RawText (slash dot)

/-- A path whose rendering holds nothing that has a meaning in specifiers. -/
structure Path.IsPlain (p : Path) : Prop where
  not_mem_loader : '!' ∉ p.text.toList
  not_mem_query : '?' ∉ p.text.toList
  not_infix_marker : ¬ Specifier.markerStart <:+: p.text.toList

/-- What has a meaning in specifiers can be told from the bytes of a path. -/
theorem Path.isPlain_iff {p : Path} : p.IsPlain ↔ RawText.asciiByte '!' ∉ p.bytes ∧
    RawText.asciiByte '?' ∉ p.bytes ∧ ¬ RawText.encode Specifier.markerStart <:+: p.bytes := by
  have hmarker : RawText.IsAscii Specifier.markerStart := by decide
  rw [← RawText.mem_letters (by decide), ← RawText.mem_letters (by decide),
    RawText.encode_isInfix_iff hmarker, ← toList_text]
  exact ⟨fun h => ⟨h.not_mem_loader, h.not_mem_query, h.not_infix_marker⟩,
    fun ⟨hloader, hquery, hmarker⟩ => ⟨hloader, hquery, hmarker⟩⟩

/-- A path that stands at the end of a plain one is plain. -/
theorem Path.IsPlain.of_suffix {p q : Path} (hq : q.IsPlain) (h : p.bytes <:+ q.bytes) :
    p.IsPlain := by
  obtain ⟨hloader, hquery, hmarker⟩ := isPlain_iff.mp hq
  exact isPlain_iff.mpr ⟨fun hmem => hloader (h.mem hmem), fun hmem => hquery (h.mem hmem),
    fun hin => hmarker (hin.trans h.isInfix)⟩

namespace EntryFinder

variable {top names : List RawText}

/-! ## What a specifier denotes -/

/-- What a specifier says of a file: its path as seen from the context, or else its path. -/
def seenFrom (context p : Path) : Path := (p.below? context).getD p

/-- The specifier of a file below the context. -/
theorem specifierOf_append {rest : List RawText} (h : ∀ name ∈ top ++ rest, IsName name) :
    specifierOf (.ofNames top) (.ofNames (top ++ rest)) =
      "./" ++ (Path.ofBytes (Text.join slash (rest.map RawText.bytes))).text := by
  rw [specifierOf, Path.below?_ofNames_append h]

/-- The specifier of a file elsewhere. -/
theorem specifierOf_elsewhere (h : ∀ name ∈ names, IsName name) (htop : ∀ name ∈ top, IsName name)
    (hnot : ¬ top <+: names) : specifierOf (.ofNames top) (.ofNames names) =
      (Path.ofNames names).text := by
  rw [specifierOf, Path.below?_ofNames_of_elsewhere h htop hnot]

/-- The specifier of a file denotes the path of the file, as an absolute request or as
one that is seen from the context, if what it says of the file is a text. -/
theorem specifierOf_denotes (h : ∀ name ∈ names, IsName name) (htop : ∀ name ∈ top, IsName name)
    (htext : (seenFrom (.ofNames top) (.ofNames names)).IsText) (cwd : Path) {request : String}
    (hrequest : specifierOf (.ofNames top) (.ofNames names) = request) :
    request ≠ "" ∧
      ((⟨request⟩ : Path).isAbsolute = true ∧ (⟨request⟩ : Path).clean = .ofNames names ∨
        (⟨request⟩ : Path).isAbsolute = false ∧ Specifier.isRelative request = true ∧
          (Path.ofNames top).resolve ⟨request⟩ cwd = .ofNames names) := by
  subst hrequest
  by_cases hstart : top <+: names
  · obtain ⟨rest, rfl⟩ := hstart
    rw [seenFrom, Path.below?_ofNames_append h, Option.getD_some] at htext
    have hrequest := specifierOf_append h
    have hbytes : (⟨specifierOf (.ofNames top) (.ofNames (top ++ rest))⟩ : Path).bytes =
        dot :: slash :: Text.join slash (rest.map RawText.bytes) := by
      rw [hrequest, Path.bytes_mk_append "./" htext]
      rfl
    have hrelative :
        (⟨specifierOf (.ofNames top) (.ofNames (top ++ rest))⟩ : Path).isAbsolute = false := by
      rw [Path.isAbsolute, hbytes]
      rfl
    have hrest : ∀ name ∈ rest, IsName name := fun name hname =>
      h name (List.mem_append_right top hname)
    refine ⟨fun hempty => ?_, .inr ⟨hrelative, ?_, ?_⟩⟩
    · rw [hempty] at hbytes
      cases hbytes
    · have hstart : "./".toList.isPrefixOf
          (specifierOf (.ofNames top) (.ofNames (top ++ rest))).toList = true := by
        rw [hrequest, String.toList_append]
        exact List.isPrefixOf_iff_prefix.mpr (List.prefix_append _ _)
      rw [Specifier.isRelative, hstart, Bool.or_true, Bool.true_or]
    · have hbody : Component.ofBytes (dot :: slash :: Text.join slash (rest.map RawText.bytes)) =
          rest.map .normal := by
        have happend := Component.ofBytes_append [dot] (Text.join slash (rest.map RawText.bytes))
        rw [Path.ofBytes_join_names hrest] at happend
        exact happend
      have hcomponents := Path.components_join_ofNames htop hrelative
      rw [hbytes, hbody, ← List.map_append] at hcomponents
      rw [Path.resolve_of_relative (Path.isAbsolute_ofNames top) hrelative,
        Path.clean_of_components hcomponents]
  · rw [seenFrom, Path.below?_ofNames_of_elsewhere h htop hstart, Option.getD_none] at htext
    have hpath : (⟨specifierOf (.ofNames top) (.ofNames names)⟩ : Path) = .ofNames names := by
      rw [specifierOf_elsewhere h htop hstart, Path.mk_text htext]
    rw [hpath]
    refine ⟨fun hempty => ?_, .inl ⟨Path.isAbsolute_ofNames names, Path.clean_ofNames h⟩⟩
    have habsolute := Path.isAbsolute_ofNames names
    rw [← hpath, hempty] at habsolute
    cases habsolute

/-- The specifier of a plain path is its own bare request. -/
theorem bareRequest_specifierOf (h : ∀ name ∈ names, IsName name)
    (htop : ∀ name ∈ top, IsName name) (hplain : (Path.ofNames names).IsPlain) :
    Specifier.bareRequest (specifierOf (.ofNames top) (.ofNames names)) =
      specifierOf (.ofNames top) (.ofNames names) := by
  by_cases hstart : top <+: names
  · obtain ⟨rest, rfl⟩ := hstart
    have hrest : (Path.ofBytes (Text.join slash (rest.map RawText.bytes))).IsPlain :=
      hplain.of_suffix (Path.join_suffix_bytes_ofNames top rest)
    have hdot : "./".toList = ['.', '/'] := rfl
    rw [specifierOf_append h]
    refine Specifier.bareRequest_eq_self ?_ ?_ ?_ <;> rw [String.toList_append, hdot]
    · simpa using hrest.not_mem_loader
    · simpa using hrest.not_mem_query
    · rw [List.cons_append, List.cons_append, List.nil_append, List.infix_cons_iff,
        List.infix_cons_iff]
      rintro (hstart | hstart | hwithin)
      · exact absurd (List.cons_prefix_cons.mp (List.cons_prefix_cons.mp hstart).2).1 (by decide)
      · exact absurd (List.cons_prefix_cons.mp hstart).1 (by decide)
      · exact hrest.not_infix_marker hwithin
  · rw [specifierOf_elsewhere h htop hstart]
    exact Specifier.bareRequest_eq_self hplain.not_mem_loader hplain.not_mem_query
      hplain.not_infix_marker

/-! ## What a specifier is resolved to -/

/-- A finder that rewrites no request and tries no module suffix, and discovers where its
resolver looks.  The context and the base are clean. -/
structure Plain (f : EntryFinder) : Prop where
  aliases : f.resolver.rewriting.aliases = []
  replacements : f.resolver.rewriting.replacements = []
  suffixes : f.resolver.endings.suffixes = []
  ignored : f.ignored = f.resolver.ignored
  context_isAbsolute : f.resolver.context.isAbsolute = true
  context_clean : f.resolver.context.clean = f.resolver.context
  base_isAbsolute : f.resolver.base.isAbsolute = true
  base_clean : f.resolver.base.clean = f.resolver.base

variable {f : EntryFinder} {fs : FileSystem} {q : Path}

theorem Plain.rewrite (hf : f.Plain) (specifier : String) :
    f.resolver.rewrite specifier = Specifier.bareRequest specifier := by
  rw [Resolver.rewrite, Rewriting.applyBare, Rewriting.apply, hf.aliases, hf.replacements]
  rfl

/-- A clean path that is absolute and plain, and of which a context sees a text. -/
structure IsFilePath (context q : Path) : Prop extends q.IsPlain where
  exists_names : ∃ names, (∀ name ∈ names, IsName name) ∧ q = .ofNames names
  isText : (seenFrom context q).IsText

/-- The specifier of a file is looked up as it is written, in one place. -/
theorem Plain.specifierOf (hf : f.Plain) (hq : IsFilePath f.resolver.context q) {request : String}
    (hrequest : EntryFinder.specifierOf f.resolver.context q = request) :
    f.resolver.rewrite request = request ∧ request ≠ "" ∧
      ((⟨request⟩ : Path).isAbsolute = true ∧ (⟨request⟩ : Path).clean = q ∨
        (⟨request⟩ : Path).isAbsolute = false ∧ Specifier.isRelative request = true ∧
          fs.resolve f.resolver.context ⟨request⟩ = q) := by
  obtain ⟨top, htop, hcontext⟩ := Path.exists_eq_ofNames hf.context_isAbsolute hf.context_clean
  obtain ⟨hplain, ⟨names, hnames, rfl⟩, htext⟩ := hq
  rw [hcontext] at hrequest htext ⊢
  refine ⟨?_, specifierOf_denotes hnames htop htext fs.workingDirectory hrequest⟩
  rw [hf.rewrite, ← hrequest]
  exact bareRequest_specifierOf hnames htop hplain

theorem Plain.places (hf : f.Plain) (hq : IsFilePath f.resolver.context q) :
    f.resolver.places fs (EntryFinder.specifierOf f.resolver.context q) = [q] := by
  obtain ⟨-, -, ⟨habsolute, hclean⟩ | ⟨habsolute, hrelative, hresolve⟩⟩ :=
    @Plain.specifierOf f fs q hf hq _ rfl
  · rw [Resolver.places]
    dsimp only
    rw [if_pos habsolute, hclean]
  · rw [Resolver.places]
    dsimp only
    rw [if_neg (by rw [habsolute]; exact Bool.false_ne_true), if_pos hrelative, hresolve]

/-- The specifier of what is no directory is not expanded. -/
theorem Plain.expand (hf : f.Plain) (hq : IsFilePath f.resolver.context q)
    (hdirectory : fs.isDirectory q = false) :
    f.expand fs (EntryFinder.specifierOf f.resolver.context q) =
      [EntryFinder.specifierOf f.resolver.context q] := by
  obtain ⟨hrewrite, hne, hplace⟩ := @Plain.specifierOf f fs q hf hq _ rfl
  have hnone : (if fs.isDirectory q && f.keeps fs q then some q else none) = none := by
    rw [hdirectory]
    rfl
  have hnamed : f.namedDirectory? fs (EntryFinder.specifierOf f.resolver.context q) = none := by
    rw [namedDirectory?, hrewrite]
    dsimp only
    rw [if_neg (by rwa [String.isEmpty_iff])]
    obtain ⟨habsolute, hclean⟩ | ⟨habsolute, hrelative, hresolve⟩ := hplace
    · simp only [habsolute, if_true, hclean]
      exact hnone
    · simp only [habsolute, Bool.false_eq_true, if_false, hrelative, if_true, hresolve]
      exact hnone
  rw [EntryFinder.expand, hnamed]

theorem keeps_iff : f.keeps fs q = true ↔ ∀ directory ∈ f.ignored,
    ¬ (fs.absolute directory).components <+: (fs.absolute q).components := by
  simp [keeps, FileSystem.isIn, FileSystem.absolute, Path.isIn, Path.startsWith]

/-- The first candidate of a specifier is the path it denotes. -/
theorem Plain.candidates (hf : f.Plain) (hq : IsFilePath f.resolver.context q) :
    ∃ rest, f.resolver.candidates fs (EntryFinder.specifierOf f.resolver.context q) =
      ⟨q, q, "", ""⟩ :: rest := by
  rw [Resolver.candidates, hf.places hq, hf.suffixes]
  exact ⟨_, rfl⟩

/-- The specifier of a file is resolved to the file. -/
theorem Plain.resolve (hf : f.Plain) (hq : IsFilePath f.resolver.context q)
    (hfile : fs.isFile q = true) (hkeep : f.keeps fs q = true) :
    f.resolver.resolve fs (EntryFinder.specifierOf f.resolver.context q) = some q := by
  obtain ⟨hrewrite, hne, -⟩ := @Plain.specifierOf f fs q hf hq _ rfl
  obtain ⟨rest, hrest⟩ := @Plain.candidates f fs q hf hq
  rw [Resolver.resolve_eq_some_iff, hrewrite]
  refine ⟨hne, [], _, rest, hrest, ?_, ⟨hfile, hf.ignored ▸ keeps_iff.mp hkeep⟩,
    List.forall_mem_nil _⟩
  exact Path.eq_of_bytes (List.append_nil q.bytes)

/-- A specifier of a path that is too long has no file. -/
theorem Plain.resolve_of_isTooLong (hf : f.Plain) (hq : IsFilePath f.resolver.context q)
    (hmain : f.resolver.mainFiles = []) (hlong : FileSystem.isTooLong q = true) :
    f.resolver.resolve fs (EntryFinder.specifierOf f.resolver.context q) = none := by
  obtain ⟨hrewrite, -, -⟩ := @Plain.specifierOf f fs q hf hq _ rfl
  have hdirectory : fs.isDirectory q = false := by
    rw [FileSystem.isDirectory, FileSystem.get?_of_isTooLong hlong]
    rfl
  have hstems : f.resolver.stems fs q = [q] := by
    have hpackage : f.resolver.packageStem? fs q = none := by
      rw [Resolver.packageStem?, hdirectory]
      rfl
    rw [Resolver.stems, hpackage, hmain]
    rfl
  rw [Resolver.resolve_eq_none_iff, hrewrite]
  refine .inr fun c hc hadmissible => ?_
  simp only [Resolver.candidates, hf.places hq, List.flatMap_cons, hstems, List.flatMap_nil,
    List.append_nil, List.mem_flatMap, List.mem_map] at hc
  obtain ⟨suffix, -, extension, -, rfl⟩ := hc
  have hpath : FileSystem.isTooLong (q.append (suffix ++ extension : String)) = true :=
    FileSystem.isTooLong_of_startsWith (List.prefix_append _ _) hlong
  have hfile := hadmissible.1
  rw [Resolver.Candidate.path, FileSystem.isFile, FileSystem.get?_of_isTooLong hpath] at hfile
  cases hfile

end EntryFinder

end BundleConfig
