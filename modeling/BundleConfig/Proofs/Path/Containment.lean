import BundleConfig.Proofs.Path.Names

/-!
# Containment

A path is in a location if the components of the location start those of the path, once both
are made absolute and clean.  So containment is an order on paths up to their spelling, and it
respects the bounds of names: what has a longer name beside a directory is not in it
(`Path.not_isIn_append`).

A relative path stays in the directory it is seen from if following it on paper never leads
above its start.  Its clean form tells: no `..` is at its front.  The stack of components that
cleaning works on is then the same on top of every other stack
(`Path.foldl_cleanStep_append`), and what was there before is left alone.
-/

namespace BundleConfig

open RawText (slash)

/-- A name that goes on is a name, if it goes on with no slash. -/
theorem IsName.append {name more : RawText} (hname : IsName name) (hmore : more.bytes ≠ [])
    (hslash : slash ∉ more.bytes) : IsName ⟨name.bytes ++ more.bytes⟩ := by
  constructor
  · exact fun heq => hname.ne_empty (List.append_eq_nil_iff.mp heq).1
  · intro heq
    rcases List.append_eq_singleton_iff.mp heq with ⟨hnil, -⟩ | ⟨-, hnil⟩
    · exact hname.ne_empty hnil
    · exact hmore hnil
  · intro heq
    rcases List.append_eq_cons_iff.mp heq with ⟨hnil, -⟩ | ⟨after, hdot, hafter⟩
    · exact hname.ne_empty hnil
    · rcases List.append_eq_singleton_iff.mp hafter.symm with ⟨hnil, -⟩ | ⟨-, hnil⟩
      · rw [hnil] at hdot
        exact hname.ne_here hdot
      · exact hmore hnil
  · rw [List.mem_append]
    exact fun hmem => hmem.elim hname.not_mem_slash hslash

namespace Component

/-- A component behind the start of a path. -/
def IsStep (c : Component) : Prop := c = .up ∨ ∃ name, c = .normal name ∧ IsName name

theorem isStep_ofBytes {cs : List UInt8} : ∀ c ∈ ofBytes cs, IsStep c := fun _ => eq_up_or_normal

variable {c : Component}

theorem IsStep.not_mem_slash (h : IsStep c) : slash ∉ c.piece := by
  rcases h with rfl | ⟨name, rfl, hname⟩
  · decide
  · exact hname.not_mem_slash

theorem IsStep.isPiece_piece (h : IsStep c) : isPiece c.piece = true := by
  rcases h with rfl | ⟨name, rfl, hname⟩
  · decide
  · exact isPiece_bytes hname

theorem IsStep.ofPiece_piece (h : IsStep c) : ofPiece c.piece = c := by
  rcases h with rfl | ⟨name, rfl, hname⟩
  · decide
  · exact ofPiece_bytes hname

theorem IsStep.ne_root (h : IsStep c) : c ≠ .root := by
  rcases h with rfl | ⟨name, rfl, -⟩ <;> nofun

end Component

namespace Path

open Component (IsStep)

variable {p q d l m cwd : Path}

/-! ## The components of a path that is put together -/

theorem components_of_isAbsolute (h : p.isAbsolute = true) :
    p.components = .root :: Component.ofBytes p.bytes := by
  obtain ⟨cs, hcs⟩ := isAbsolute_iff.mp h
  rw [components_of_bytes hcs, hcs]
  exact congrArg (.root :: ·) (Component.ofBytes_append [] cs).symm

/-- A relative path starts with no component or with a `.`, and its body has the pieces that say
something. -/
theorem headAndBody_of_relative (h : p.isAbsolute = false) :
    ∃ head body, p.headAndBody = (head, body) ∧ (head = none ∨ head = some .here) ∧
      body.filter Component.isPiece = (Text.split slash p.bytes).filter Component.isPiece := by
  unfold headAndBody
  split
  next hsplit => exact ⟨none, [], rfl, .inl rfl, by rw [hsplit]; rfl⟩
  next body hne hsplit =>
    have hjoin := Text.join_split slash p.bytes
    cases body with
    | nil => exact absurd rfl hne
    | cons next body =>
        rw [hsplit, Text.join_cons_cons] at hjoin
        exact absurd (isAbsolute_iff.mpr ⟨_, hjoin.symm⟩) (by rw [h]; exact Bool.false_ne_true)
  next body hsplit => exact ⟨some .here, body, rfl, .inr rfl, by rw [hsplit]; rfl⟩
  next => exact ⟨none, _, rfl, .inl rfl, rfl⟩

/-- A relative path has the components behind its start, but for a leading `.`. -/
theorem components_of_relative (h : p.isAbsolute = false) :
    p.components = Component.ofBytes p.bytes ∨
      p.components = .here :: Component.ofBytes p.bytes := by
  obtain ⟨head, body, hhead, hor, hbody⟩ := headAndBody_of_relative h
  rw [components, hhead, Component.ofBytes, ← hbody]
  rcases hor with rfl | rfl
  · exact .inl rfl
  · exact .inr rfl

/-- A leading `.` says nothing to what is clean so far. -/
theorem foldl_cleanStep_components (h : p.isAbsolute = false) (stack : List Component) :
    p.components.foldl cleanStep stack = (Component.ofBytes p.bytes).foldl cleanStep stack := by
  rcases components_of_relative h with heq | heq
  · rw [heq]
  · rw [heq]
    rfl

/-- A relative path adds its components to the path it is seen from. -/
theorem ofBytes_bytes_join (h : q.isAbsolute = false) :
    Component.ofBytes (p.join q).bytes =
      Component.ofBytes p.bytes ++ Component.ofBytes q.bytes := by
  rw [join, if_neg (by rw [h]; exact Bool.false_ne_true)]
  split
  next hopen =>
    rw [bytes_ofBytes]
    rcases hopen with hempty | hlast
    · rw [List.isEmpty_iff.mp hempty]
      rfl
    · obtain ⟨before, hbefore⟩ := List.getLast?_eq_some_iff.mp hlast
      rw [hbefore, List.append_assoc, List.singleton_append, Component.ofBytes_append,
        Component.ofBytes_append]
      simp [Component.ofBytes, Text.split, Component.isPiece]
  next => rw [bytes_ofBytes, Component.ofBytes_append]

theorem isAbsolute_join_of_relative (hp : p.isAbsolute = false) (hq : q.isAbsolute = false) :
    (p.join q).isAbsolute = false := by
  rw [join, if_neg (by rw [hq]; exact Bool.false_ne_true)]
  have hstart : ∀ more : List UInt8, p.bytes ≠ [] →
      (ofBytes (p.bytes ++ more)).isAbsolute = p.isAbsolute := by
    intro more hne
    rw [isAbsolute, isAbsolute, bytes_ofBytes, List.head?_append_of_ne_nil _ hne]
  by_cases hempty : p.bytes = []
  · rw [if_pos (.inl (List.isEmpty_iff.mpr hempty)), isAbsolute, bytes_ofBytes, hempty]
    exact hq
  · split
    · rw [hstart q.bytes hempty, hp]
    · rw [hstart _ hempty, hp]

/-! ## The clean form of a relative path -/

/-- A path of steps has them as its components. -/
theorem components_ofComponents {cs : List Component} (hne : cs ≠ [])
    (h : ∀ c ∈ cs, IsStep c) : (ofComponents cs).components = cs := by
  have hroot : cs ≠ [.root] := fun heq => (h .root (heq ▸ List.mem_singleton_self _)).ne_root rfl
  have hpieces : Text.split slash (Text.join slash (cs.map Component.piece)) =
      cs.map Component.piece := by
    refine Text.split_join (fun hnil => hne (List.map_eq_nil_iff.mp hnil)) fun piece hpiece => ?_
    obtain ⟨c, hc, rfl⟩ := List.mem_map.mp hpiece
    exact (h c hc).not_mem_slash
  have hall : (cs.map Component.piece).filter Component.isPiece = cs.map Component.piece := by
    refine List.filter_eq_self.mpr fun piece hpiece => ?_
    obtain ⟨c, hc, rfl⟩ := List.mem_map.mp hpiece
    exact (h c hc).isPiece_piece
  have hsame : (cs.map Component.piece).map Component.ofPiece = cs := by
    rw [List.map_map]
    exact (List.map_congr_left fun c hc => (h c hc).ofPiece_piece).trans cs.map_id
  have hhead : (ofComponents cs).headAndBody = (none, cs.map Component.piece) := by
    rw [ofComponents, headAndBody, bytes_ofBytes, hpieces]
    · obtain ⟨c, rest, rfl⟩ := List.exists_cons_of_ne_nil hne
      have hc := Component.isPiece_iff.mp (h c List.mem_cons_self).isPiece_piece
      rw [List.map_cons]
      split
      next heq => exact absurd (List.cons.inj heq).1 hc.1
      next heq => exact absurd (List.cons.inj heq).1 hc.1
      next heq => exact absurd (List.cons.inj heq).1 hc.2
      next => rfl
    · exact hroot
  rw [components, hhead]
  dsimp only
  rw [hall, hsame]
  rfl

theorem isStep_foldl_cleanStep {cs stack : List Component} (hcs : ∀ c ∈ cs, IsStep c)
    (hstack : ∀ c ∈ stack, IsStep c) : ∀ c ∈ cs.foldl cleanStep stack, IsStep c :=
  fun c hc => (mem_of_mem_foldl_cleanStep hc).elim (hstack c) (hcs c)

/-- The clean form of a relative path has the components that are left, or is `.`. -/
theorem components_clean_of_relative (h : p.isAbsolute = false) :
    p.clean.components =
      if cleanComponents p.components = [] then [.here] else cleanComponents p.components := by
  rw [clean]
  split
  next hnil =>
    rw [if_pos hnil]
    decide
  next hne =>
    rw [if_neg hne]
    refine components_ofComponents hne fun c hc => ?_
    rw [cleanComponents, foldl_cleanStep_components h] at hc
    exact isStep_foldl_cleanStep Component.isStep_ofBytes (List.forall_mem_nil _) c
      (List.mem_reverse.mp hc)

/-! ## Following a path on paper -/

/-- No component takes a `..` away. -/
theorem exists_cleanStep_eq_concat (stack : List Component) (c : Component) :
    ∃ stack', cleanStep (stack ++ [.up]) c = stack' ++ [.up] := by
  cases c with
  | root => exact ⟨.root :: stack, rfl⟩
  | here => exact ⟨stack, rfl⟩
  | normal name => exact ⟨.normal name :: stack, rfl⟩
  | up =>
      cases stack with
      | nil => exact ⟨[.up], rfl⟩
      | cons first rest =>
          cases first with
          | root => exact ⟨.root :: rest, rfl⟩
          | normal name => exact ⟨rest, rfl⟩
          | here => exact ⟨.up :: .here :: rest, rfl⟩
          | up => exact ⟨.up :: .up :: rest, rfl⟩

/-- So a `..` at the bottom of the stack stays there. -/
theorem getLast?_foldl_cleanStep (cs stack : List Component) :
    (cs.foldl cleanStep (stack ++ [.up])).getLast? = some .up := by
  induction cs generalizing stack with
  | nil => exact List.getLast?_concat
  | cons c cs ih =>
      obtain ⟨stack', hstep⟩ := exists_cleanStep_eq_concat stack c
      rw [List.foldl_cons, hstep]
      exact ih stack'

/-- Steps that never lead above their start do the same on top of every stack. -/
theorem foldl_cleanStep_append {cs : List Component} (hcs : ∀ c ∈ cs, IsStep c)
    {names : List RawText} (hnames : ∀ name ∈ names, IsName name)
    (hlast : (cs.foldl cleanStep (names.map .normal)).getLast? ≠ some .up) :
    ∃ names' : List RawText, (∀ name ∈ names', IsName name) ∧
      ∀ stack, cs.foldl cleanStep (names.map .normal ++ stack) =
        names'.map .normal ++ stack := by
  induction cs generalizing names with
  | nil => exact ⟨names, hnames, fun _ => rfl⟩
  | cons c cs ih =>
      have hrest := fun c hc => hcs c (List.mem_cons_of_mem _ hc)
      rcases hcs c List.mem_cons_self with rfl | ⟨name, rfl, hname⟩
      · cases names with
        | nil => exact absurd (getLast?_foldl_cleanStep cs []) hlast
        | cons first names =>
            exact ih hrest (fun name hname => hnames name (List.mem_cons_of_mem _ hname)) hlast
      · exact ih hrest (List.forall_mem_cons.mpr ⟨hname, hnames⟩) hlast

/-- A path stays in its directory: following it never leads above its start. -/
theorem startsWith_clean_of_components {cs : List Component} (hd : d.isAbsolute = true)
    (hcomponents : p.components = d.components ++ cs)
    (hcs : ∀ c ∈ cs, IsStep c) (hlast : (cs.foldl cleanStep []).getLast? ≠ some .up) :
    p.clean.startsWith d.clean = true := by
  obtain ⟨names, hnames, hstack⟩ := exists_stack_of_isAbsolute hd
  obtain ⟨more, hmore, hfold⟩ := foldl_cleanStep_append hcs (List.forall_mem_nil IsName) hlast
  have hall : ∀ name ∈ names ++ more.reverse, IsName name := by
    intro name hname
    rcases List.mem_append.mp hname with hname | hname
    · exact hnames name hname
    · exact hmore name (List.mem_reverse.mp hname)
  have hclean : p.clean = ofNames (names ++ more.reverse) := by
    refine clean_of_stack ?_
    have hmap : more.map Component.normal = (more.reverse.map Component.normal).reverse := by
      rw [List.map_reverse, List.reverse_reverse]
    rw [hcomponents, List.foldl_append, hstack, List.map_append, List.reverse_append,
      List.append_assoc, ← hmap]
    exact hfold _
  rw [hclean, clean_of_stack hstack, startsWith_ofNames hall hnames]
  exact List.prefix_append names more.reverse

/-! ## Containment -/

theorem isIn_singleton : p.isIn cwd [l] = (p.absolute cwd).startsWith (l.absolute cwd) := by
  rw [isIn, List.any_cons, List.any_nil, Bool.or_false]

theorem isIn_self (p cwd : Path) : p.isIn cwd [p] = true := by
  rw [isIn_singleton, startsWith, List.isPrefixOf_iff_prefix]

theorem isIn_trans (hpl : p.isIn cwd [l] = true) (hlm : l.isIn cwd [m] = true) :
    p.isIn cwd [m] = true := by
  rw [isIn_singleton, startsWith, List.isPrefixOf_iff_prefix] at *
  exact hlm.trans hpl

/-- A path is in a list of locations if it is in one of them. -/
theorem isIn_iff_exists {locations : List Path} :
    p.isIn cwd locations = true ↔ ∃ l ∈ locations, p.isIn cwd [l] = true := by
  simp only [isIn_singleton]
  exact List.any_eq_true

/-- A name that goes on after the last name of a directory is no name in it. -/
theorem not_isIn_append {x : RawText} (hd : d.isAbsolute = true) (hclean : d.clean = d)
    (hroot : d ≠ ⟨"/"⟩) (hx : x.bytes ≠ []) (hslash : slash ∉ x.bytes) :
    (d.append x).isIn cwd [d] = false := by
  obtain ⟨names, hnames, rfl⟩ := exists_eq_ofNames hd hclean
  obtain rfl | ⟨above, name, rfl⟩ := names.eq_nil_or_concat'
  · exact absurd rfl hroot
  · have hlonger := (hnames name (List.mem_concat_self)).append hx hslash
    have hall : ∀ other ∈ above ++ [⟨name.bytes ++ x.bytes⟩], IsName other := by
      intro other hother
      rcases List.mem_append.mp hother with habove | hlast
      · exact hnames other (List.mem_append_left [name] habove)
      · rwa [List.mem_singleton.mp hlast]
    have hspelling : (ofNames (above ++ [name])).append x =
        ofNames (above ++ [⟨name.bytes ++ x.bytes⟩]) := by
      refine eq_of_bytes ?_
      rw [append, bytes_ofBytes, bytes_ofNames_of_ne_nil (by simp),
        bytes_ofNames_of_ne_nil (by simp), List.flatMap_append, List.flatMap_append,
        List.append_assoc]
      simp
    rw [hspelling, isIn_singleton, absolute_ofNames hall, absolute_ofNames hnames,
      ← Bool.not_eq_true, startsWith_ofNames hall hnames]
    intro hstarts
    have heq := List.append_cancel_left (hstarts.eq_of_length (by simp))
    have hsame := congrArg RawText.bytes (List.cons.inj heq).1
    rw [List.self_eq_append_right] at hsame
    exact hx hsame

/-- A relative path whose clean form has no `..` at its front stays in the directory it is seen
from. -/
theorem isIn_join (hcwd : d.isAbsolute = true ∨ cwd.isAbsolute = true)
    (hq : q.isAbsolute = false) (hfront : q.clean.components.head? ≠ some .up) :
    (d.join q).isIn cwd [d] = true := by
  have hlast : ((Component.ofBytes q.bytes).foldl cleanStep []).getLast? ≠ some .up := by
    rw [components_clean_of_relative hq, cleanComponents, foldl_cleanStep_components hq] at hfront
    intro hup
    refine hfront ?_
    rw [if_neg, List.head?_reverse, hup]
    intro hnil
    rw [List.reverse_eq_nil_iff.mp hnil] at hup
    cases hup
  rw [isIn_singleton]
  cases hd : d.isAbsolute with
  | true =>
      have hjoin := isAbsolute_join hd (q := q)
      rw [absolute_of_isAbsolute hjoin, absolute_of_isAbsolute hd]
      refine startsWith_clean_of_components hd ?_ Component.isStep_ofBytes hlast
      rw [components_of_isAbsolute hjoin, components_of_isAbsolute hd, ofBytes_bytes_join hq]
      rfl
  | false =>
      have habsolute := hcwd.resolve_left (by rw [hd]; exact Bool.false_ne_true)
      have hrelative := isAbsolute_join_of_relative hd hq
      have hjoin := isAbsolute_join habsolute (q := d.join q)
      have hbase := isAbsolute_join habsolute (q := d)
      rw [absolute, if_neg (by rw [hrelative]; exact Bool.false_ne_true), absolute,
        if_neg (by rw [hd]; exact Bool.false_ne_true)]
      refine startsWith_clean_of_components hbase ?_ Component.isStep_ofBytes hlast
      rw [components_of_isAbsolute hjoin, components_of_isAbsolute hbase,
        ofBytes_bytes_join hrelative, ofBytes_bytes_join hq, ofBytes_bytes_join hd,
        List.cons_append, List.append_assoc]

/-- Seen from every working directory, containment is reflexive and transitive, a list of
locations contains what one of them does, a longer name beside a directory is not in it, and a
relative path that does not lead above its start is in the directory it is seen from. -/
theorem isIn_boundaryExact (cwd : Path) :
    (∀ p : Path, p.isIn cwd [p] = true) ∧
      (∀ p l m : Path, p.isIn cwd [l] = true → l.isIn cwd [m] = true → p.isIn cwd [m] = true) ∧
      (∀ (p : Path) (locations : List Path),
        p.isIn cwd locations = true ↔ ∃ l ∈ locations, p.isIn cwd [l] = true) ∧
      (∀ (d : Path) (x : RawText), d.isAbsolute = true → d.clean = d → d ≠ ⟨"/"⟩ →
        x.bytes ≠ [] → slash ∉ x.bytes → (d.append x).isIn cwd [d] = false) ∧
      ∀ d q : Path, d.isAbsolute = true ∨ cwd.isAbsolute = true → q.isAbsolute = false →
        q.clean.components.head? ≠ some .up → (d.join q).isIn cwd [d] = true :=
  ⟨fun p => isIn_self p cwd, fun _ _ _ => isIn_trans, fun _ _ => isIn_iff_exists,
    fun _ _ => not_isIn_append, fun _ _ => isIn_join⟩

theorem isIn_libraryAndSibling :
    (⟨"lib/./x/"⟩ : Path).isIn ⟨"/home/app"⟩ [⟨"../app//"⟩] = true ∧
      ((⟨"/home/lib"⟩ : Path).append "..").isIn ⟨"/home/app"⟩ [⟨"/home/lib"⟩] = false ∧
      ((⟨"../lib"⟩ : Path).join ⟨"./x/../y//.."⟩).isIn ⟨"/home/app"⟩ [⟨"../lib"⟩] = true := by
  obtain ⟨-, htrans, -, hsibling, hbelow⟩ := isIn_boundaryExact ⟨"/home/app"⟩
  have hclean : (⟨"/home/lib"⟩ : Path).clean = ⟨"/home/lib"⟩ := by decide +kernel
  have hfront : (⟨"./x/../y//.."⟩ : Path).clean.components.head? ≠ some .up := by decide +kernel
  refine ⟨?_, ?_, ?_⟩
  · exact htrans ⟨"lib/./x/"⟩ ⟨"/home/app/lib"⟩ ⟨"../app//"⟩ (by decide +kernel)
      (by decide +kernel)
  · exact hsibling ⟨"/home/lib"⟩ ".." (by decide) hclean (by decide) (by decide) (by decide)
  · exact hbelow ⟨"../lib"⟩ ⟨"./x/../y//.."⟩ (.inr (by decide)) (by decide) hfront

end Path

end BundleConfig
