import BundleConfig.Error
import BundleConfig.Proofs.Path.Names
import BundleConfig.Proofs.Text.Raw

/-!
# Paths that are texts

A path is a *text* if its bytes are those of a text.  Such a path is read back from its
rendering as it was (`Path.mk_text`).  The paths that are texts are closed under joining,
cleaning and resolving, for these only put together what stands in the paths they are given.

Of every other path something is lost when it is rendered, but never a slash, nor a piece
that says something.  So a path of names is rendered name by name, and what it is read back
as is a path of names again (`Path.mk_text_ofNames`).
-/

namespace BundleConfig

open RawText (IsUtf8 slash dot)

theorem isName_ofText_iff {text : String} :
    IsName (.ofText text) ↔ text ≠ "" ∧ text ≠ "." ∧ text ≠ ".." ∧ '/' ∉ text.toList := by
  have hne : ∀ other : String,
      (RawText.ofText text).bytes ≠ RawText.encode other.toList ↔ text ≠ other := fun other =>
    (RawText.bytes_injective.comp RawText.ofText_injective).ne_iff
  have hslash : slash ∉ (RawText.ofText text).bytes ↔ '/' ∉ text.toList :=
    not_congr (RawText.asciiByte_mem_encode RawText.slash_ascii)
  constructor
  · rintro ⟨hempty, hhere, hup, hmem⟩
    exact ⟨(hne "").mp hempty, (hne ".").mp hhere, (hne "..").mp hup, hslash.mp hmem⟩
  · rintro ⟨hempty, hhere, hup, hmem⟩
    exact ⟨(hne "").mpr hempty, (hne ".").mpr hhere, (hne "..").mpr hup, hslash.mpr hmem⟩

/-- The rendering of a name is a name. -/
theorem IsName.ofText_text {name : RawText} (h : IsName name) : IsName (.ofText name.text) := by
  have hascii : ∀ cs : List Char, RawText.IsAscii cs →
      name.bytes ≠ RawText.encode cs → (RawText.ofText name.text).bytes ≠ RawText.encode cs := by
    intro cs hcs hne heq
    rw [RawText.bytes_ofText_text] at heq
    have hletters := congrArg RawText.letters heq
    rw [RawText.letters_encode, RawText.letters_encode] at hletters
    exact hne ((RawText.letters_eq_iff_of_ascii hcs).mp hletters)
  refine ⟨hascii [] (by decide) h.ne_empty, hascii ['.'] (by decide) h.ne_here,
    hascii ['.', '.'] (by decide) h.ne_up, ?_⟩
  rw [RawText.bytes_ofText_text]
  exact fun hmem => h.not_mem_slash ((RawText.mem_letters RawText.slash_ascii).mp
    ((RawText.asciiByte_mem_encode RawText.slash_ascii).mp hmem))

theorem Component.piece_ofPiece (piece : List UInt8) : (ofPiece piece).piece = piece := by
  unfold ofPiece
  split
  next hup => exact hup.symm
  next => rfl

namespace Path

variable {p q base cwd : Path}

theorem toList_text (p : Path) : p.text.toList = RawText.letters p.bytes := String.toList_ofList

/-- A path starts at the root if its rendering starts with a slash. -/
theorem isAbsolute_eq (p : Path) : p.isAbsolute = (p.text.toList.head? == some '/') := by
  have hascii : RawText.IsAscii ['/'] := by decide
  have hstart : [slash] <+: p.bytes ↔ ['/'] <+: p.text.toList := by
    rw [toList_text]
    exact RawText.encode_isPrefix_iff hascii
  rw [Bool.eq_iff_iff, isAbsolute, beq_iff_eq, beq_iff_eq,
    ← List.singleton_prefix_iff_head?_eq_some, ← List.singleton_prefix_iff_head?_eq_some]
  exact hstart

/-! ## Texts -/

/-- The bytes of the path are those of a text. -/
def IsText (p : Path) : Prop := IsUtf8 p.bytes

instance : Decidable p.IsText := inferInstanceAs (Decidable (IsUtf8 p.bytes))

theorem isText_mk (text : String) : (⟨text⟩ : Path).IsText := RawText.isUtf8_encode _

@[simp] theorem text_mk (text : String) : (⟨text⟩ : Path).text = text := RawText.text_ofText text

/-- A path that is a text is read back from its rendering as it was. -/
theorem mk_text (h : p.IsText) : (⟨p.text⟩ : Path) = p :=
  congrArg Path.mk (RawText.ofText_text_iff.mpr h)

/-- A text is read back behind another one as it was. -/
theorem bytes_mk_append (start : String) (h : p.IsText) :
    (⟨start ++ p.text⟩ : Path).bytes = RawText.encode start.toList ++ p.bytes := by
  rw [bytes_mk, RawText.bytes_ofText, String.toList_append, RawText.encode_append, toList_text, h]

/-- The tree of a path that is a text is its rendering, and no other path has one. -/
theorem toJson_eq_ok_iff {tree : Json} :
    p.toJson = .ok tree ↔ p.IsText ∧ tree = .string p.text := by
  rw [toJson]
  cases htext : p.spelling.text? with
  | none =>
      refine iff_of_false nofun fun h => ?_
      rw [RawText.text?_eq_some_iff.mpr ⟨h.1, rfl⟩] at htext
      cases htext
  | some text =>
      obtain ⟨h, rfl⟩ := RawText.text?_eq_some_iff.mp htext
      exact ⟨fun hok => ⟨h, (Except.ok.inj hok).symm⟩, fun htree => congrArg Except.ok htree.2.symm⟩

theorem exists_toJson_iff (p : Path) : (∃ tree, p.toJson = .ok tree) ↔ p.IsText :=
  ⟨fun ⟨_, h⟩ => (toJson_eq_ok_iff.mp h).1, fun h => ⟨_, toJson_eq_ok_iff.mpr ⟨h, rfl⟩⟩⟩

theorem text_inj (hp : p.IsText) (hq : q.IsText) : p.text = q.text ↔ p = q := by
  constructor
  · intro h
    rw [← mk_text hp, h, mk_text hq]
  · exact congrArg text

/-- What a path starts with and the pieces after it are among its pieces, but for the root. -/
theorem headAndBody_within (p : Path) :
    (∀ c ∈ p.headAndBody.1, c = .root ∨ c.piece ∈ Text.split slash p.bytes) ∧
      p.headAndBody.2 ⊆ Text.split slash p.bytes := by
  unfold headAndBody
  split
  next => exact ⟨nofun, List.nil_subset _⟩
  next body _ hsplit =>
    exact ⟨fun c hc => .inl (Option.some.inj hc).symm, hsplit ▸ List.subset_cons_self [] body⟩
  next body hsplit =>
    refine ⟨fun c hc => .inr ?_, hsplit ▸ List.subset_cons_self [dot] body⟩
    obtain rfl := Option.some.inj hc
    exact hsplit ▸ List.mem_cons_self
  next => exact ⟨nofun, List.Subset.refl _⟩

/-- The components of a text are texts. -/
theorem isUtf8_piece (h : p.IsText) {c : Component} (hc : c ∈ p.components) : IsUtf8 c.piece := by
  obtain ⟨hhead, hbody⟩ := headAndBody_within p
  have hpiece : ∀ piece ∈ Text.split slash p.bytes, IsUtf8 piece := fun piece hpiece =>
    RawText.isUtf8_of_mem_split RawText.slash_ascii h hpiece
  obtain hc | hc := List.mem_append.mp hc
  · obtain rfl | hmem := hhead c (Option.mem_toList.mp hc)
    · exact RawText.isUtf8_encode []
    · exact hpiece c.piece hmem
  · obtain ⟨piece, hmem, rfl⟩ := List.mem_map.mp hc
    rw [Component.piece_ofPiece]
    exact hpiece piece (hbody (List.mem_of_mem_filter hmem))

theorem isText_ofComponents {cs : List Component} (h : ∀ c ∈ cs, IsUtf8 c.piece) :
    (ofComponents cs).IsText := by
  unfold ofComponents
  split
  · exact RawText.isUtf8_encode ['/']
  · refine RawText.isUtf8_join RawText.slash_ascii fun piece hpiece => ?_
    obtain ⟨c, hc, rfl⟩ := List.mem_map.mp hpiece
    exact h c hc

theorem isText_join_names {names : List RawText} (h : ∀ name ∈ names, IsUtf8 name.bytes) :
    (ofBytes (Text.join slash (names.map RawText.bytes))).IsText := by
  refine RawText.isUtf8_join RawText.slash_ascii fun piece hpiece => ?_
  obtain ⟨name, hname, rfl⟩ := List.mem_map.mp hpiece
  exact h name hname

theorem isText_clean (h : p.IsText) : p.clean.IsText := by
  unfold clean
  split
  · exact RawText.isUtf8_encode ['.']
  · refine isText_ofComponents fun c hc => isUtf8_piece h ?_
    exact (mem_of_mem_foldl_cleanStep (List.mem_reverse.mp hc)).resolve_left List.not_mem_nil

theorem isText_join (hp : p.IsText) (hq : q.IsText) : (p.join q).IsText := by
  unfold join
  split
  · exact hq
  · split
    · exact RawText.isUtf8_append hp hq
    · exact RawText.isUtf8_append hp (RawText.isUtf8_append (RawText.isUtf8_encode ['/']) hq)

theorem isText_resolve (hbase : base.isAbsolute = true) (hbaseText : base.IsText) (hp : p.IsText) :
    (base.resolve p cwd).IsText := by
  unfold resolve
  split
  · exact isText_clean hp
  · rw [absolute_of_isAbsolute (isAbsolute_join hbase)]
    exact isText_clean (isText_join hbaseText hp)

theorem isText_below? {rest : Path} (h : p.IsText) (hrest : p.below? q = some rest) :
    rest.IsText := by
  rw [below?, Option.ite_none_right_eq_some, Option.some_inj] at hrest
  obtain ⟨-, rfl⟩ := hrest
  exact isText_ofComponents fun c hc => isUtf8_piece h (List.mem_of_mem_drop hc)

/-! ## Renderings -/

/-- The names that names are read back as from their renderings. -/
def rendered (names : List RawText) : List RawText := names.map fun name => .ofText name.text

theorem isName_of_mem_rendered {names : List RawText} (h : ∀ name ∈ names, IsName name) :
    ∀ name ∈ rendered names, IsName name := by
  intro name hname
  obtain ⟨raw, hraw, rfl⟩ := List.mem_map.mp hname
  exact (h raw hraw).ofText_text

theorem rendered_eq_self_iff {names : List RawText} :
    rendered names = names ↔ ∀ name ∈ names, IsUtf8 name.bytes := by
  conv_lhs => rhs; rw [← List.map_id' names]
  rw [rendered, List.map_inj_left]
  exact forall₂_congr fun name _ => RawText.ofText_text_iff

theorem bytes_rendered (names : List RawText) : (rendered names).map RawText.bytes =
    (names.map RawText.bytes).map fun bytes => RawText.encode (RawText.letters bytes) := by
  rw [rendered, List.map_map, List.map_map]
  exact List.map_congr_left fun name _ => RawText.bytes_ofText_text name

/-- Of joined names each is rendered. -/
theorem mk_text_join_names (names : List RawText) :
    (⟨(ofBytes (Text.join slash (names.map RawText.bytes))).text⟩ : Path) =
      ofBytes (Text.join slash ((rendered names).map RawText.bytes)) := by
  refine eq_of_bytes ((RawText.bytes_ofText_text _).trans ?_)
  rw [bytes_ofBytes, bytes_rendered]
  exact RawText.encode_letters_join RawText.slash_ascii _

theorem mk_text_ofNames (names : List RawText) :
    (⟨(ofNames names).text⟩ : Path) = ofNames (rendered names) := by
  refine eq_of_bytes ((RawText.bytes_ofText_text (ofNames names).spelling).trans ?_)
  show RawText.encode (RawText.letters (ofNames names).bytes) = _
  rw [bytes_ofNames, bytes_ofNames, bytes_rendered]
  exact (RawText.encode_letters_cons RawText.slash_ascii _).trans
    (congrArg (slash :: ·) (RawText.encode_letters_join RawText.slash_ascii _))

theorem toList_text_ofNames (names : List RawText) : (ofNames names).text.toList =
    '/' :: Text.join '/' (names.map fun name => name.text.toList) := by
  have hroot : ∀ rest, RawText.letters (slash :: rest) = '/' :: RawText.letters rest :=
    RawText.letters_append_cons RawText.slash_ascii []
  have hpieces : (names.map RawText.bytes).map RawText.letters =
      names.map fun name => name.text.toList := by
    rw [List.map_map]
    exact List.map_congr_left fun name _ => String.toList_ofList.symm
  rw [toList_text, bytes_ofNames, hroot, ← hpieces]
  exact congrArg _ (RawText.letters_join RawText.slash_ascii _)

/-- What is below a place is seen from there where it was, read back from its rendering, only
if it is a text. -/
theorem resolve_mk_text_iff {top rest : List RawText} (h : ∀ name ∈ top ++ rest, IsName name)
    (cwd : Path) :
    (ofNames top).resolve ⟨(ofBytes (Text.join slash (rest.map RawText.bytes))).text⟩ cwd =
        ofNames (top ++ rest) ↔
      (ofBytes (Text.join slash (rest.map RawText.bytes))).IsText := by
  obtain ⟨htop, hrest⟩ := List.forall_mem_append.mp h
  have hrendered : ∀ name ∈ top ++ rendered rest, IsName name :=
    List.forall_mem_append.mpr ⟨htop, isName_of_mem_rendered hrest⟩
  constructor
  · intro hfound
    rw [mk_text_join_names, resolve_join_names hrendered] at hfound
    have heq := List.append_cancel_left (ofNames_injective hrendered h hfound)
    exact isText_join_names (rendered_eq_self_iff.mp heq)
  · intro htext
    rw [mk_text htext, resolve_join_names h]

end Path

end BundleConfig
