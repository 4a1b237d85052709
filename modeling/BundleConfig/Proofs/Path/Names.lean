import BundleConfig.Path.Clean
import BundleConfig.Proofs.Text.Pieces

/-!
# Absolute paths and the names in them

A *name* is a raw text that can be a component: it is not empty, not `.` or `..`, and
holds no slash.  `Path.ofNames` spells the absolute path of some names.  Every absolute path
that is clean is one of these, and tells its names (`Path.exists_eq_ofNames`,
`Path.ofNames_injective`).

On paths of names the functions on paths are functions on lists: joining appends, a
start is a prefix, and what is below is the rest.  The spelling of a path below the
root is its names with a slash before each (`Path.bytes_ofNames_of_ne_nil`).
-/

namespace BundleConfig

open RawText (slash dot)

/-! ## Names -/

/-- A raw text that is the name of an entry. -/
structure IsName (name : RawText) : Prop where
  ne_empty : name.bytes ≠ []
  ne_here : name.bytes ≠ [dot]
  ne_up : name.bytes ≠ [dot, dot]
  not_mem_slash : slash ∉ name.bytes

namespace Component

/-- The components of some bytes behind the root. -/
def ofBytes (cs : List UInt8) : List Component :=
  ((Text.split slash cs).filter isPiece).map ofPiece

theorem isPiece_iff {piece : List UInt8} : isPiece piece = true ↔ piece ≠ [] ∧ piece ≠ [dot] := by
  simp [isPiece]

theorem ofPiece_bytes {name : RawText} (h : IsName name) : ofPiece name.bytes = .normal name :=
  if_neg h.ne_up

theorem isPiece_bytes {name : RawText} (h : IsName name) : isPiece name.bytes = true :=
  isPiece_iff.mpr ⟨h.ne_empty, h.ne_here⟩

/-- Behind the root there are only names and steps up. -/
theorem eq_up_or_normal {cs : List UInt8} {c : Component} (h : c ∈ ofBytes cs) :
    c = .up ∨ ∃ name, c = .normal name ∧ IsName name := by
  obtain ⟨piece, hpiece, rfl⟩ := List.mem_map.mp h
  obtain ⟨hsplit, hp⟩ := List.mem_filter.mp hpiece
  obtain ⟨hempty, hhere⟩ := isPiece_iff.mp hp
  by_cases hup : piece = [dot, dot]
  · exact .inl (if_pos hup)
  · exact .inr ⟨⟨piece⟩, if_neg hup, hempty, hhere, hup, Text.not_mem_of_mem_split hsplit⟩

/-- The components on both sides of a slash are those of the two sides. -/
theorem ofBytes_append (before after : List UInt8) :
    ofBytes (before ++ slash :: after) = ofBytes before ++ ofBytes after := by
  rw [ofBytes, Text.split_append, List.filter_append, List.map_append]
  rfl

/-- A name behind the root stands in the spelling. -/
theorem infix_of_mem {cs : List UInt8} {name : RawText}
    (h : .normal name ∈ ofBytes cs) : name.bytes <:+: cs := by
  obtain ⟨piece, hpiece, heq⟩ := List.mem_map.mp h
  have hname : piece = name.bytes := by
    unfold ofPiece at heq
    split at heq
    · cases heq
    · cases heq
      rfl
  have hwithin : piece <:+: Text.join slash (Text.split slash cs) :=
    Text.infix_join_of_mem (List.mem_of_mem_filter hpiece)
  rwa [Text.join_split, hname] at hwithin

end Component

namespace Path

/-! ## Absolute paths -/

theorem isAbsolute_iff {p : Path} : p.isAbsolute = true ↔ ∃ cs, p.bytes = slash :: cs := by
  rw [isAbsolute, beq_iff_eq, List.head?_eq_some_iff]

theorem headAndBody_of_bytes {p : Path} {cs : List UInt8} (h : p.bytes = slash :: cs) :
    p.headAndBody = (some .root, Text.split slash cs) := by
  rw [headAndBody, h, Text.split_cons_self]
  match hs : Text.split slash cs with
  | [] => exact absurd hs (Text.split_ne_nil slash cs)
  | piece :: pieces => rfl

theorem components_of_bytes {p : Path} {cs : List UInt8} (h : p.bytes = slash :: cs) :
    p.components = .root :: Component.ofBytes cs := by
  rw [components, headAndBody_of_bytes h]
  rfl

variable {p q : Path}

@[simp] theorem bytes_mk (spelling : RawText) : (⟨spelling⟩ : Path).bytes = spelling.bytes := rfl

theorem eq_of_bytes (h : p.bytes = q.bytes) : p = q := congrArg ofBytes h

@[simp] theorem bytes_ofBytes (cs : List UInt8) : (ofBytes cs).bytes = cs := rfl

theorem isAbsolute_append (h : p.isAbsolute = true) (more : List UInt8) :
    (ofBytes (p.bytes ++ more)).isAbsolute = true := by
  obtain ⟨cs, hcs⟩ := isAbsolute_iff.mp h
  exact isAbsolute_iff.mpr ⟨cs ++ more, congrArg (· ++ more) hcs⟩

theorem isAbsolute_join (h : p.isAbsolute = true) : (p.join q).isAbsolute = true := by
  unfold join
  split
  · assumption
  · split
    · exact isAbsolute_append h q.bytes
    · exact isAbsolute_append h (slash :: q.bytes)

theorem isAbsolute_entry (h : p.isAbsolute = true) (name : RawText) :
    (p.entry name).isAbsolute = true :=
  isAbsolute_join h

/-! ## Paths of names -/

/-- The absolute path of some names. -/
def ofNames (names : List RawText) : Path := ofComponents (.root :: names.map .normal)

theorem ofComponents_names (names : List RawText) :
    ofComponents (names.map .normal) = ofBytes (Text.join slash (names.map RawText.bytes)) := by
  have hpieces : (names.map Component.normal).map Component.piece = names.map RawText.bytes := by
    rw [List.map_map]
    rfl
  rw [ofComponents, hpieces]
  intro hroot
  cases names with
  | nil => cases hroot
  | cons name names => cases hroot

@[simp] theorem bytes_ofNames (names : List RawText) :
    (ofNames names).bytes = slash :: Text.join slash (names.map RawText.bytes) := by
  cases names with
  | nil => rfl
  | cons name names =>
      have hpieces : (names.map Component.normal).map Component.piece =
          names.map RawText.bytes := by
        rw [List.map_map]
        rfl
      rw [ofNames, ofComponents, bytes_ofBytes, List.map_cons, List.map_cons, List.map_cons,
        hpieces]
      · rfl
      · exact fun h => nomatch (List.cons.inj h).2

theorem mem_bytes_ofNames {names : List RawText} {c : UInt8} (hc : c ≠ slash) :
    c ∈ (ofNames names).bytes ↔ ∃ name ∈ names, c ∈ name.bytes := by
  rw [bytes_ofNames, List.mem_cons, or_iff_right hc, Text.mem_join hc]
  simp

/-- The spelling of a path below the root is its names, each behind a slash. -/
theorem bytes_ofNames_of_ne_nil {names : List RawText} (h : names ≠ []) :
    (ofNames names).bytes = names.flatMap fun name => slash :: name.bytes := by
  rw [bytes_ofNames, Text.cons_join fun hnil => h (List.map_eq_nil_iff.mp hnil), List.flatMap_map]

/-- The spelling of a path of names starts with that of every path above it. -/
theorem isPrefix_bytes_ofNames (names more : List RawText) :
    (ofNames names).bytes <+: (ofNames (names ++ more)).bytes := by
  by_cases hnames : names = []
  · rw [hnames, bytes_ofNames, bytes_ofNames]
    exact List.cons_prefix_cons.mpr ⟨rfl, List.nil_prefix⟩
  · rw [bytes_ofNames_of_ne_nil hnames,
      bytes_ofNames_of_ne_nil (List.append_ne_nil_of_left_ne_nil hnames more),
      List.flatMap_append]
    exact List.prefix_append _ _

/-- The spelling of a path of names ends with its last names. -/
theorem join_suffix_bytes_ofNames (names more : List RawText) :
    Text.join slash (more.map RawText.bytes) <:+ (ofNames (names ++ more)).bytes := by
  by_cases hmore : more = []
  · rw [hmore]
    exact List.nil_suffix
  · refine (List.suffix_cons slash _).trans ?_
    rw [← bytes_ofNames, bytes_ofNames_of_ne_nil hmore,
      bytes_ofNames_of_ne_nil (List.append_ne_nil_of_right_ne_nil names hmore),
      List.flatMap_append]
    exact List.suffix_append _ _

theorem split_join_names {names : List RawText} (hne : names ≠ [])
    (h : ∀ name ∈ names, IsName name) :
    Text.split slash (Text.join slash (names.map RawText.bytes)) = names.map RawText.bytes := by
  refine Text.split_join (fun hnil => hne (List.map_eq_nil_iff.mp hnil)) fun piece hpiece => ?_
  obtain ⟨name, hname, rfl⟩ := List.mem_map.mp hpiece
  exact (h name hname).not_mem_slash

theorem isAbsolute_ofNames (names : List RawText) : (ofNames names).isAbsolute = true :=
  isAbsolute_iff.mpr ⟨_, bytes_ofNames names⟩

/-- Joined pieces are the pieces, but for what says nothing. -/
theorem ofBytes_join {pieces : List (List UInt8)} (h : ∀ piece ∈ pieces, slash ∉ piece) :
    Component.ofBytes (Text.join slash pieces) =
      (pieces.filter Component.isPiece).map Component.ofPiece := by
  cases pieces with
  | nil => rfl
  | cons piece pieces => rw [Component.ofBytes, Text.split_join (List.cons_ne_nil _ _) h]

theorem ofBytes_join_names {names : List RawText} (h : ∀ name ∈ names, IsName name) :
    Component.ofBytes (Text.join slash (names.map RawText.bytes)) = names.map .normal := by
  have hpieces : ∀ piece ∈ names.map RawText.bytes, Component.isPiece piece = true := by
    intro piece hpiece
    obtain ⟨name, hname, rfl⟩ := List.mem_map.mp hpiece
    exact Component.isPiece_bytes (h name hname)
  rw [ofBytes_join, List.filter_eq_self.mpr hpieces, List.map_map]
  · exact List.map_congr_left fun name hname => Component.ofPiece_bytes (h name hname)
  · intro piece hpiece
    obtain ⟨name, hname, rfl⟩ := List.mem_map.mp hpiece
    exact (h name hname).not_mem_slash

theorem components_ofNames {names : List RawText} (h : ∀ name ∈ names, IsName name) :
    (ofNames names).components = .root :: names.map .normal := by
  rw [components_of_bytes (bytes_ofNames names), ofBytes_join_names h]

theorem fileName_ofNames_concat {names : List RawText} {name : RawText}
    (h : ∀ other ∈ names ++ [name], IsName other) :
    (ofNames (names ++ [name])).fileName = some name := by
  rw [fileName, components_ofNames h, List.map_append, ← List.cons_append, List.map_singleton,
    List.getLast?_concat]

theorem ofNames_injective {names names' : List RawText} (h : ∀ name ∈ names, IsName name)
    (h' : ∀ name ∈ names', IsName name) (heq : ofNames names = ofNames names') :
    names = names' := by
  have hc := congrArg components heq
  rw [components_ofNames h, components_ofNames h'] at hc
  exact List.map_injective_iff.mpr (fun _ _ => Component.normal.inj) (List.cons.inj hc).2

/-! ## Clean paths -/

/-- Names are put on top of each other. -/
theorem foldl_cleanStep_names (stack : List Component) (names : List RawText) :
    (names.map Component.normal).foldl cleanStep stack =
      (names.map Component.normal).reverse ++ stack := by
  induction names generalizing stack with
  | nil => rfl
  | cons name names ih =>
      rw [List.map_cons, List.foldl_cons, ih, List.reverse_cons, List.append_assoc]
      rfl

/-- On top of the root there are only names. -/
theorem exists_names_of_foldl_cleanStep {cs : List Component}
    (hcs : ∀ c ∈ cs, c = .up ∨ ∃ name, c = .normal name ∧ IsName name) {names : List RawText}
    (hnames : ∀ name ∈ names, IsName name) :
    ∃ names' : List RawText, (∀ name ∈ names', IsName name) ∧
      cs.foldl cleanStep (names.map .normal ++ [.root]) = names'.map .normal ++ [.root] := by
  induction cs generalizing names with
  | nil => exact ⟨names, hnames, rfl⟩
  | cons c cs ih =>
      have hrest := fun c hc => hcs c (List.mem_cons_of_mem _ hc)
      obtain rfl | ⟨name, rfl, hname⟩ := hcs c List.mem_cons_self
      · cases names with
        | nil => exact ih hrest hnames
        | cons first names =>
            exact ih hrest fun name hname => hnames name (List.mem_cons_of_mem _ hname)
      · exact ih hrest (List.forall_mem_cons.mpr ⟨hname, hnames⟩)

/-- Following the components of an absolute path on paper leaves names on the root. -/
theorem exists_stack_of_isAbsolute (h : p.isAbsolute = true) :
    ∃ names : List RawText, (∀ name ∈ names, IsName name) ∧
      p.components.foldl cleanStep [] = (names.map Component.normal).reverse ++ [.root] := by
  obtain ⟨cs, hcs⟩ := isAbsolute_iff.mp h
  have hbody : ∀ c ∈ Component.ofBytes cs, c = .up ∨ ∃ name, c = .normal name ∧ IsName name :=
    fun c hc => Component.eq_up_or_normal hc
  obtain ⟨names, hnames, hfold⟩ := exists_names_of_foldl_cleanStep hbody
    (List.forall_mem_nil IsName)
  refine ⟨names.reverse, fun name hname => hnames name (List.mem_reverse.mp hname), ?_⟩
  rw [components_of_bytes hcs, List.foldl_cons, ← List.map_reverse, List.reverse_reverse]
  exact hfold

/-- The names that are left on the root make up the clean path. -/
theorem clean_of_stack {names : List RawText}
    (h : p.components.foldl cleanStep [] = (names.map Component.normal).reverse ++ [.root]) :
    p.clean = ofNames names := by
  have hclean : cleanComponents p.components = .root :: names.map .normal := by
    rw [cleanComponents, h, List.reverse_append, List.reverse_reverse]
    rfl
  rw [clean, hclean]
  rfl

/-- A clean absolute path consists of names. -/
theorem exists_clean_eq_ofNames (h : p.isAbsolute = true) :
    ∃ names, (∀ name ∈ names, IsName name) ∧ p.clean = ofNames names := by
  obtain ⟨names, hnames, hstack⟩ := exists_stack_of_isAbsolute h
  exact ⟨names, hnames, clean_of_stack hstack⟩

/-- An absolute path that is clean is one of names. -/
theorem exists_eq_ofNames (h : p.isAbsolute = true) (hclean : p.clean = p) :
    ∃ names, (∀ name ∈ names, IsName name) ∧ p = ofNames names := by
  obtain ⟨names, hnames, heq⟩ := exists_clean_eq_ofNames h
  exact ⟨names, hnames, hclean ▸ heq⟩

/-- A clean path has only components of the path. -/
theorem mem_of_mem_foldl_cleanStep {c : Component} {cs stack : List Component}
    (h : c ∈ cs.foldl cleanStep stack) : c ∈ stack ∨ c ∈ cs := by
  induction cs generalizing stack with
  | nil => exact .inl h
  | cons d cs ih =>
      rcases ih h with hstack | hcs
      · have hstep : c ∈ stack ∨ c = d := by
          unfold cleanStep at hstack
          split at hstack
          · exact .inl hstack
          · split at hstack
            · exact .inl hstack
            · exact .inl (List.mem_cons_of_mem _ hstack)
            · exact (List.mem_cons.mp hstack).symm
          · exact (List.mem_cons.mp hstack).symm
        rcases hstep with hold | rfl
        · exact .inl hold
        · exact .inr List.mem_cons_self
      · exact .inr (List.mem_cons_of_mem d hcs)

/-- The names of a clean path are names in the path. -/
theorem mem_of_clean_eq_ofNames {names : List RawText} (h : p.isAbsolute = true)
    (hnames : ∀ name ∈ names, IsName name) (hclean : p.clean = ofNames names) {name : RawText}
    (hname : name ∈ names) : .normal name ∈ p.components := by
  obtain ⟨names', hnames', hstack⟩ := exists_stack_of_isAbsolute h
  obtain rfl := ofNames_injective hnames hnames' (hclean.symm.trans (clean_of_stack hstack))
  have hmem : .normal name ∈ p.components.foldl cleanStep [] := by
    rw [hstack]
    simpa using hname
  exact (mem_of_mem_foldl_cleanStep hmem).resolve_left List.not_mem_nil

/-- An absolute path whose components are names is cleaned to the path of them. -/
theorem clean_of_components {names : List RawText}
    (h : p.components = .root :: names.map .normal) : p.clean = ofNames names := by
  apply clean_of_stack
  rw [h, List.foldl_cons, foldl_cleanStep_names]
  rfl

theorem clean_ofNames {names : List RawText} (h : ∀ name ∈ names, IsName name) :
    (ofNames names).clean = ofNames names :=
  clean_of_components (components_ofNames h)

theorem absolute_ofNames {names : List RawText} (h : ∀ name ∈ names, IsName name) (cwd : Path) :
    (ofNames names).absolute cwd = ofNames names :=
  (if_pos (isAbsolute_ofNames names)).trans (clean_ofNames h)

theorem isAbsolute_clean (h : p.isAbsolute = true) : p.clean.isAbsolute = true := by
  obtain ⟨names, -, heq⟩ := exists_clean_eq_ofNames h
  rw [heq]
  exact isAbsolute_ofNames names

theorem absolute_of_isAbsolute (h : p.isAbsolute = true) (cwd : Path) :
    p.absolute cwd = p.clean :=
  if_pos h

/-- Resolving a relative path against an absolute base is joining and cleaning. -/
theorem resolve_of_relative {base : Path} (h : base.isAbsolute = true)
    (hp : p.isAbsolute = false) (cwd : Path) : base.resolve p cwd = (base.join p).clean := by
  rw [resolve, if_neg (by simp [hp]), absolute_of_isAbsolute (isAbsolute_join h)]

/-- What is resolved against an absolute base is a path of names. -/
theorem exists_resolve_eq_ofNames {base : Path} (h : base.isAbsolute = true) (p cwd : Path) :
    ∃ names, (∀ name ∈ names, IsName name) ∧ base.resolve p cwd = .ofNames names := by
  cases hp : p.isAbsolute with
  | true =>
      rw [resolve, if_pos hp]
      exact exists_clean_eq_ofNames hp
  | false =>
      rw [resolve_of_relative h hp]
      exact exists_clean_eq_ofNames (isAbsolute_join h)

theorem isAbsolute_resolve {base : Path} (h : base.isAbsolute = true) (p cwd : Path) :
    (base.resolve p cwd).isAbsolute = true := by
  obtain ⟨names, -, heq⟩ := exists_resolve_eq_ofNames h p cwd
  rw [heq]
  exact isAbsolute_ofNames names

/-! ## Paths below one another -/

theorem join_names_ne_nil {names : List RawText} (hne : names ≠ [])
    (h : ∀ name ∈ names, IsName name) : Text.join slash (names.map RawText.bytes) ≠ [] := by
  refine Text.join_ne_nil (fun hnil => hne (List.map_eq_nil_iff.mp hnil)) fun piece hpiece => ?_
  obtain ⟨name, hname, rfl⟩ := List.mem_map.mp hpiece
  exact (h name hname).ne_empty

/-- Joined names do not end in a slash. -/
theorem getLast?_join_names {names : List RawText} (h : ∀ name ∈ names, IsName name) :
    (Text.join slash (names.map RawText.bytes)).getLast? ≠ some slash := by
  refine Text.getLast?_join fun piece hpiece => ?_
  obtain ⟨name, hname, rfl⟩ := List.mem_map.mp hpiece
  exact ⟨(h name hname).ne_empty, (h name hname).not_mem_slash⟩

/-- Joined names do not begin with a slash. -/
theorem isAbsolute_join_names {names : List RawText} (h : ∀ name ∈ names, IsName name) :
    (ofBytes (Text.join slash (names.map RawText.bytes))).isAbsolute = false := by
  rw [← Bool.not_eq_true, isAbsolute_iff]
  rintro ⟨cs, hcs⟩
  rw [bytes_ofBytes] at hcs
  cases names with
  | nil => cases hcs
  | cons name names =>
      have hsplit := split_join_names (List.cons_ne_nil name names) h
      rw [hcs, Text.split_cons_self, List.map_cons] at hsplit
      exact (h name List.mem_cons_self).ne_empty (List.cons.inj hsplit).1.symm

/-- What a relative path is, seen from a path of names. -/
theorem bytes_join_ofNames {names : List RawText} (h : ∀ name ∈ names, IsName name)
    (hq : q.isAbsolute = false) :
    ((ofNames names).join q).bytes =
      if names = [] then slash :: q.bytes
      else slash :: (Text.join slash (names.map RawText.bytes) ++ slash :: q.bytes) := by
  have hbytes := bytes_ofNames names
  rw [join, if_neg (by rw [hq]; exact Bool.false_ne_true)]
  cases names with
  | nil =>
      rw [if_pos (.inr (by rw [hbytes]; rfl)), if_pos rfl, bytes_ofBytes]
      exact congrArg (· ++ q.bytes) hbytes
  | cons name names =>
      have hne := join_names_ne_nil (List.cons_ne_nil name names) h
      have hslash : ¬ ((ofNames (name :: names)).bytes.isEmpty = true ∨
          (ofNames (name :: names)).bytes.getLast? = some slash) := by
        rw [hbytes, List.getLast?_cons_of_ne_nil hne]
        exact fun hor => hor.elim nofun (getLast?_join_names h)
      rw [if_neg hslash, if_neg (List.cons_ne_nil name names), bytes_ofBytes]
      exact congrArg (· ++ slash :: q.bytes) hbytes

/-- A relative path continues the path of names it is seen from. -/
theorem components_join_ofNames {names : List RawText} (h : ∀ name ∈ names, IsName name)
    (hq : q.isAbsolute = false) :
    ((ofNames names).join q).components =
      .root :: (names.map .normal ++ Component.ofBytes q.bytes) := by
  have hbytes := bytes_join_ofNames h hq
  split at hbytes
  next hnil =>
    rw [components_of_bytes hbytes, hnil]
    rfl
  next => rw [components_of_bytes hbytes, Component.ofBytes_append, ofBytes_join_names h]

/-- The rest of the names, seen from the first ones, is the path of all. -/
theorem resolve_join_names {top rest : List RawText} (h : ∀ name ∈ top ++ rest, IsName name)
    (cwd : Path) : (ofNames top).resolve (ofBytes (Text.join slash (rest.map RawText.bytes))) cwd =
      ofNames (top ++ rest) := by
  have htop : ∀ name ∈ top, IsName name := fun name hname =>
    h name (List.mem_append_left rest hname)
  have hrest : ∀ name ∈ rest, IsName name := fun name hname =>
    h name (List.mem_append_right top hname)
  have hrelative := isAbsolute_join_names hrest
  have hcomponents := components_join_ofNames htop hrelative
  rw [bytes_ofBytes, ofBytes_join_names hrest, ← List.map_append] at hcomponents
  rw [resolve_of_relative (isAbsolute_ofNames top) hrelative, clean_of_components hcomponents]

theorem entry_ofNames {names : List RawText} {name : RawText} (h : ∀ name ∈ names, IsName name)
    (hname : IsName name) : (ofNames names).entry name = ofNames (names ++ [name]) := by
  have hrelative : (⟨name⟩ : Path).isAbsolute = false := by
    rw [← Bool.not_eq_true, isAbsolute_iff]
    rintro ⟨cs, hcs⟩
    refine hname.not_mem_slash ?_
    rw [← bytes_mk, hcs]
    exact List.mem_cons_self
  refine eq_of_bytes ?_
  rw [entry, bytes_join_ofNames h hrelative]
  split
  next hnil =>
    rw [hnil, bytes_ofNames]
    rfl
  next hne =>
    rw [← List.cons_append, ← bytes_ofNames, bytes_ofNames_of_ne_nil hne,
      bytes_ofNames_of_ne_nil (List.append_ne_nil_of_left_ne_nil hne [name]),
      List.flatMap_append, List.flatMap_singleton]
    rfl

/-- A path of names starts with another one if its names do. -/
theorem startsWith_ofNames {names top : List RawText} (h : ∀ name ∈ names, IsName name)
    (htop : ∀ name ∈ top, IsName name) :
    (ofNames names).startsWith (ofNames top) = true ↔ top <+: names := by
  rw [startsWith, List.isPrefixOf_iff_prefix, components_ofNames h, components_ofNames htop,
    List.cons_prefix_cons]
  constructor
  · rintro ⟨-, hstart⟩
    exact (List.prefix_map_iff_of_injective fun _ _ => Component.normal.inj).mp hstart
  · intro hstart
    exact ⟨rfl, hstart.map _⟩

theorem below?_ofNames_append {top rest : List RawText} (h : ∀ name ∈ top ++ rest, IsName name) :
    (ofNames (top ++ rest)).below? (ofNames top) =
      some (ofBytes (Text.join slash (rest.map RawText.bytes))) := by
  have htop := fun name hname => h name (List.mem_append_left rest hname)
  have hstarts := (startsWith_ofNames h htop).mpr (List.prefix_append top rest)
  have hdrop : (ofNames (top ++ rest)).components.drop (ofNames top).components.length =
      rest.map .normal := by
    rw [components_ofNames h, components_ofNames htop, List.length_cons, List.drop_succ_cons,
      List.map_append, List.drop_left]
  rw [below?, if_pos hstarts, hdrop, ofComponents_names]

theorem below?_ofNames_of_elsewhere {names top : List RawText} (h : ∀ name ∈ names, IsName name)
    (htop : ∀ name ∈ top, IsName name) (hnot : ¬ top <+: names) :
    (ofNames names).below? (ofNames top) = none :=
  if_neg fun hstarts => hnot ((startsWith_ofNames h htop).mp hstarts)

/-! ## The directories above -/

/-- Idle pieces at the end say nothing. -/
theorem filter_dropIdle (pieces : List (List UInt8)) :
    (dropIdle pieces).filter Component.isPiece = pieces.filter Component.isPiece := by
  have h : ∀ pieces : List (List UInt8), (pieces.dropWhile (!Component.isPiece ·)).filter
      Component.isPiece = pieces.filter Component.isPiece := by
    intro pieces
    induction pieces with
    | nil => rfl
    | cons piece pieces ih =>
        cases hp : Component.isPiece piece with
        | false => simp [hp, ih]
        | true => simp [hp]
  rw [dropIdle, List.filter_reverse, h, List.filter_reverse, List.reverse_reverse]

theorem mem_of_mem_dropIdle {pieces : List (List UInt8)} {piece : List UInt8}
    (h : piece ∈ dropIdle pieces) : piece ∈ pieces :=
  List.mem_reverse.mp ((List.dropWhile_sublist _).mem (List.mem_reverse.mp h))

/-- The parent of an absolute path has the components but for the last one.  Only the
root has no parent. -/
theorem parent_of_isAbsolute (h : p.isAbsolute = true) :
    (p.parent = none ∧ p.components = [.root]) ∨
      ∃ q c, p.parent = some q ∧ q.isAbsolute = true ∧ p.components = q.components ++ [c] := by
  obtain ⟨cs, hcs⟩ := isAbsolute_iff.mp h
  have hpieces := filter_dropIdle (Text.split slash cs)
  have hslash : ∀ piece ∈ dropIdle (Text.split slash cs), slash ∉ piece := by
    intro piece hpiece
    exact Text.not_mem_of_mem_split (mem_of_mem_dropIdle hpiece)
  rw [components_of_bytes hcs, Component.ofBytes, ← hpieces]
  unfold parent
  rw [headAndBody_of_bytes hcs]
  dsimp only
  split
  next piece before hbefore =>
    have hlast : Component.isPiece piece = true := by
      have hhead := List.head?_dropWhile_not (!Component.isPiece ·) (Text.split slash cs).reverse
      rw [dropIdle, List.reverse_reverse] at hbefore
      rw [hbefore] at hhead
      simpa using hhead
    have hbody : dropIdle (Text.split slash cs) = before.reverse ++ [piece] := by
      rw [← List.reverse_cons, ← hbefore, List.reverse_reverse]
    rw [hbody] at hslash
    have habove : (ofHeadAndBody (some .root) (dropIdle before.reverse)).bytes =
        slash :: Text.join slash (dropIdle before.reverse) := bytes_ofBytes _
    refine .inr ⟨_, Component.ofPiece piece, rfl, isAbsolute_iff.mpr ⟨_, habove⟩, ?_⟩
    have hnot : ∀ piece ∈ dropIdle before.reverse, slash ∉ piece := fun piece hpiece =>
      hslash piece (List.mem_append_left _ (mem_of_mem_dropIdle hpiece))
    rw [components_of_bytes habove, ofBytes_join hnot, hbody, filter_dropIdle before.reverse,
      List.filter_append, List.filter_cons_of_pos hlast, List.map_append]
    rfl
  next hnil =>
    rw [List.reverse_eq_nil_iff.mp hnil]
    exact .inl ⟨rfl, rfl⟩

/-- The path and the directories above it are the initial parts of the path, the
longest first. -/
theorem ancestors_of_isAbsolute (h : p.isAbsolute = true) (count : Nat) :
    (∀ q ∈ p.ancestors count, q.isAbsolute = true) ∧
      (p.ancestors count).map components = (p.components.inits.tail.reverse).take count := by
  induction count generalizing p with
  | zero => exact ⟨List.forall_mem_nil _, rfl⟩
  | succ count ih =>
      rw [ancestors]
      obtain ⟨hparent, hcomponents⟩ | ⟨q, c, hparent, hq, hcomponents⟩ := parent_of_isAbsolute h
      · rw [hparent, hcomponents]
        exact ⟨List.forall_mem_singleton.mpr h, by simp [hcomponents]⟩
      · obtain ⟨habsolute, hmap⟩ := ih hq
        rw [hparent]
        refine ⟨List.forall_mem_cons.mpr ⟨h, habsolute⟩, ?_⟩
        have hinits : p.components.inits.tail.reverse =
            p.components :: q.components.inits.tail.reverse := by
          rw [hcomponents, List.inits_append, List.tail_append_of_ne_nil, List.reverse_append]
          · rfl
          · exact List.ne_nil_of_mem ((List.mem_inits [] _).mpr List.nil_prefix)
        rw [hinits, List.map_cons, List.take_succ_cons, ← hmap]
        rfl

end Path

end BundleConfig
