import BundleConfig.Proofs.Entry.Specifiers
import BundleConfig.Specifier.Rebase

/-!
# Requests seen from elsewhere

A relative request denotes a file, which is found on paper.  The *places* of a reference
directory are its module locations, in order, and then the directory itself.  The request
becomes the part of the file's path below the first place that holds the file, and seen
from that place it denotes the same file (`Rewriting.rebase_keepsFile`).  When no place
holds the file, the request stays as it is.

The part is looked up as it is, since nothing in it has a meaning in specifiers: it
consists of names of the context and of the request, which are plain
(`Rewriting.infix_of_mem_resolve`).

The request becomes the rendering of the part.  Nothing is lost in it if the part is a text,
as it is when the context is one.  Else the new request denotes another file.
-/

namespace BundleConfig

open RawText (slash)

/-- A path of names is plain if every name stands in a plain path. -/
theorem Path.isPlain_join {names : List RawText}
    (h : ∀ name ∈ names, ∃ p : Path, p.IsPlain ∧ name.bytes <:+: p.bytes) :
    (Path.ofBytes (Text.join slash (names.map RawText.bytes))).IsPlain := by
  have hnot : ∀ byte, byte ≠ slash → (∀ p : Path, p.IsPlain → byte ∉ p.bytes) →
      byte ∉ (Path.ofBytes (Text.join slash (names.map RawText.bytes))).bytes := by
    intro byte hslash hplain hmem
    rw [Path.bytes_ofBytes, Text.mem_join hslash] at hmem
    obtain ⟨piece, hpiece, hbyte⟩ := hmem
    obtain ⟨name, hname, rfl⟩ := List.mem_map.mp hpiece
    obtain ⟨p, hp, hwithin⟩ := h name hname
    exact hplain p hp (hwithin.subset hbyte)
  refine Path.isPlain_iff.mpr
    ⟨hnot _ (by decide) fun p hp => (Path.isPlain_iff.mp hp).1,
      hnot _ (by decide) fun p hp => (Path.isPlain_iff.mp hp).2.1, ?_⟩
  rw [Path.bytes_ofBytes, Text.infix_join_iff (by decide) (by decide)]
  rintro ⟨piece, hpiece, hmarker⟩
  obtain ⟨name, hname, rfl⟩ := List.mem_map.mp hpiece
  obtain ⟨p, hp, hwithin⟩ := h name hname
  exact (Path.isPlain_iff.mp hp).2.2 (hmarker.trans hwithin)

namespace Rewriting

variable {fs : FileSystem} {request : String} {context reference : Path}

/-- The file of a request consists of names of the context and of the request. -/
theorem infix_of_mem_resolve {top names : List RawText} (htop : ∀ name ∈ top, IsName name)
    (hnames : ∀ name ∈ names, IsName name) (hrelative : (⟨request⟩ : Path).isAbsolute = false)
    (hfile : fs.resolve (.ofNames top) ⟨request⟩ = .ofNames names) {name : RawText}
    (hname : name ∈ names) :
    name.bytes <:+: (Path.ofNames top).bytes ∨ name.bytes <:+: (⟨request⟩ : Path).bytes := by
  have habsolute := Path.isAbsolute_join (q := ⟨request⟩) (Path.isAbsolute_ofNames top)
  rw [FileSystem.resolve, Path.resolve_of_relative (Path.isAbsolute_ofNames top) hrelative]
    at hfile
  have hmem := Path.mem_of_clean_eq_ofNames habsolute hnames hfile hname
  rw [Path.components_join_ofNames htop hrelative] at hmem
  simp only [List.mem_cons, List.mem_append, reduceCtorEq, false_or, List.mem_map,
    Component.normal.injEq, exists_eq_right] at hmem
  rcases hmem with hmem | hmem
  · left
    have hwithin : name.bytes <:+: Text.join slash (top.map RawText.bytes) :=
      Text.infix_join_of_mem (List.mem_map_of_mem hmem)
    rw [Path.bytes_ofNames]
    exact hwithin.trans (List.suffix_cons slash _).isInfix
  · exact .inr (Component.infix_of_mem hmem)

/-- The places of a reference directory. -/
def places (fs : FileSystem) (reference : Path) (locations : List String) : List Path :=
  locations.map (fun (location : String) => fs.resolve reference ⟨location⟩) ++ [reference]

theorem exists_of_mem_places {names : List RawText} (hnames : ∀ name ∈ names, IsName name)
    {locations : List String} {place : Path} (h : place ∈ places fs (.ofNames names) locations) :
    ∃ top, (∀ name ∈ top, IsName name) ∧ place = .ofNames top := by
  rcases List.mem_append.mp h with h | h
  · obtain ⟨location, -, rfl⟩ := List.mem_map.mp h
    exact Path.exists_resolve_eq_ofNames (Path.isAbsolute_ofNames names) ⟨location⟩ _
  · exact ⟨names, hnames, List.mem_singleton.mp h⟩

theorem isAbsolute_of_dot (h : "./".toList <+: request.toList) :
    (⟨request⟩ : Path).isAbsolute = false := by
  obtain ⟨rest, hrest⟩ := h
  rw [Path.isAbsolute_eq, Path.text_mk, ← hrest]
  rfl

/-- Between different directories a request is searched for in the places. -/
theorem rebase_of_ne (r : Rewriting) {top names : List RawText} (htop : ∀ name ∈ top, IsName name)
    (hnames : ∀ name ∈ names, IsName name) (hne : top ≠ names)
    (hrequest : "./".toList <+: request.toList) (locations : List String) :
    r.rebase fs request (.ofNames top) (.ofNames names) locations =
      match (places fs (.ofNames names) locations).findSome?
        (fs.resolve (.ofNames top) ⟨request⟩).below? with
      | some rest => r.applyBare rest.text
      | none => request := by
  have hsame : (Path.ofNames top).same (.ofNames names) = false := by
    rw [Path.same, Path.components_ofNames htop, Path.components_ofNames hnames,
      beq_eq_false_iff_ne]
    intro heq
    have hmap := (List.cons.inj heq).2
    exact hne (List.map_injective_iff.mpr (fun _ _ => Component.normal.inj) hmap)
  have hstart : "./".toList.isPrefixOf request.toList = true :=
    List.isPrefixOf_iff_prefix.mpr hrequest
  unfold rebase FileSystem.absolute
  simp only [Path.absolute_ofNames htop, Path.absolute_ofNames hnames, hsame, hstart,
    Bool.not_true, Bool.or_false, Bool.false_eq_true, if_false]
  rfl

/-- What is below a place is seen from it as the file, and looked up as it is.  Its rendering is
seen from there as the file only if it is a text. -/
theorem below_place {top names : List RawText} (hrequest : "./".toList <+: request.toList)
    (htop : ∀ name ∈ top, IsName name) (hplain : (⟨request⟩ : Path).IsPlain)
    (hcontext : (Path.ofNames top).IsPlain) (hnames : ∀ name ∈ names, IsName name)
    (hholds : (fs.resolve (.ofNames top) ⟨request⟩).startsWith (.ofNames names) = true) :
    ∃ rest, (fs.resolve (.ofNames top) ⟨request⟩).below? (.ofNames names) = some rest ∧
      ({} : Rewriting).applyBare rest.text = rest.text ∧
      fs.resolve (.ofNames names) rest = fs.resolve (.ofNames top) ⟨request⟩ ∧
      (fs.resolve (.ofNames names) ⟨rest.text⟩ = fs.resolve (.ofNames top) ⟨request⟩ ↔
        rest.IsText) := by
  obtain ⟨file, hfile, heq⟩ := Path.exists_resolve_eq_ofNames (Path.isAbsolute_ofNames top)
    ⟨request⟩ fs.workingDirectory
  have hresolve : fs.resolve (.ofNames top) ⟨request⟩ = .ofNames file := heq
  rw [hresolve] at hholds ⊢
  obtain ⟨rest, rfl⟩ := (Path.startsWith_ofNames hfile hnames).mp hholds
  refine ⟨_, Path.below?_ofNames_append hfile, ?_, Path.resolve_join_names hfile _,
    Path.resolve_mk_text_iff hfile _⟩
  have hrest : (Path.ofBytes (Text.join slash (rest.map RawText.bytes))).IsPlain := by
    refine Path.isPlain_join fun name hname => ?_
    rcases infix_of_mem_resolve htop hfile (isAbsolute_of_dot hrequest) hresolve
      (List.mem_append_right names hname) with h | h
    · exact ⟨_, hcontext, h⟩
    · exact ⟨_, hplain, h⟩
  exact Specifier.bareRequest_eq_self hrest.not_mem_loader hrest.not_mem_query
    hrest.not_infix_marker

/-- A project seen from its root. -/
def bareProject : FileSystem := ⟨[], ⟨"/p"⟩⟩

/-- Module locations of the project that overlap. -/
def nestedLocations : List String := ["node_modules", "lib/x/..", "lib/x"]

/-- A name of the context that is no text is rendered. -/
example : ({} : Rewriting).rebase bareProject "./x" (.ofBytes [slash, 0x61, slash, 0xFF]) ⟨"/a"⟩
    [] = "\uFFFD/x" := by
  decide

end Rewriting

end BundleConfig
