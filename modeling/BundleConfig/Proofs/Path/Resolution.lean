import BundleConfig.Proofs.Path.Containment
import BundleConfig.Proofs.Path.Rendering
import BundleConfig.Proofs.Specifier.Basic

/-!
# Resolving in steps

Cleaning works on a stack of components, and what is on the stack is left alone when it is
cleaned again (`Path.foldl_cleanStep_kept`).  So a clean path is its own clean form, relative
or absolute, and a relative path has the same clean form seen from a path and seen from the
clean form of that path (`Path.clean_join_clean`).

To resolve against an absolute base is to join and to clean, whatever is resolved
(`Path.resolve_eq_clean_join`).  So it makes no difference whether a path is resolved at once or
part by part.

A list of paths is normalized to the clean forms, each where it occurs first.
-/

namespace BundleConfig

namespace Path

variable {p q b cwd : Path}

/-! ## Cleaning twice -/

/-- What a step puts on a stack is left alone when the stack is cleaned again. -/
theorem foldl_cleanStep_kept {stack : List Component} (c : Component)
    (h : stack.reverse.foldl cleanStep [] = stack) :
    (cleanStep stack c).reverse.foldl cleanStep [] = cleanStep stack c := by
  have hpush : ∀ d, (d :: stack).reverse.foldl cleanStep [] = cleanStep stack d := by
    intro d
    rw [List.reverse_cons, List.foldl_append, h, List.foldl_cons, List.foldl_nil]
  cases c with
  | here => exact h
  | root => exact hpush .root
  | normal name => exact hpush (.normal name)
  | up =>
      cases stack with
      | nil => rfl
      | cons first rest =>
          cases first with
          | root => exact h
          | here => exact hpush .up
          | up => exact hpush .up
          | normal name =>
              rw [List.reverse_cons, List.foldl_append, List.foldl_cons, List.foldl_nil] at h
              exact (List.cons.inj h).2

theorem cleanComponents_cleanComponents (cs : List Component) :
    cleanComponents (cleanComponents cs) = cleanComponents cs := by
  have hkept : ∀ stack : List Component, stack.reverse.foldl cleanStep [] = stack →
      (cs.foldl cleanStep stack).reverse.foldl cleanStep [] = cs.foldl cleanStep stack := by
    induction cs with
    | nil => exact fun stack h => h
    | cons c cs ih => exact fun stack h => ih _ (foldl_cleanStep_kept c h)
  rw [cleanComponents, cleanComponents, hkept [] rfl]

/-- The clean form of a path has the components that are left, or is `.`. -/
theorem components_clean (p : Path) : p.clean.components =
    if cleanComponents p.components = [] then [.here] else cleanComponents p.components := by
  cases hp : p.isAbsolute with
  | false => exact components_clean_of_relative hp
  | true =>
      obtain ⟨names, hnames, hstack⟩ := exists_stack_of_isAbsolute hp
      have hleft : cleanComponents p.components = .root :: names.map .normal := by
        rw [cleanComponents, hstack, List.reverse_append, List.reverse_reverse]
        rfl
      rw [clean_of_stack hstack, components_ofNames hnames, hleft, if_neg (List.cons_ne_nil _ _)]

/-- Only the components that are left make the clean form. -/
theorem clean_congr (h : cleanComponents p.components = cleanComponents q.components) :
    p.clean = q.clean := by
  rw [clean, clean, h]

theorem cleanComponents_components_clean (p : Path) :
    cleanComponents p.clean.components = cleanComponents p.components := by
  rw [components_clean]
  split
  next hnil =>
    rw [hnil]
    rfl
  next => exact cleanComponents_cleanComponents p.components

theorem clean_clean (p : Path) : p.clean.clean = p.clean :=
  clean_congr (cleanComponents_components_clean p)

/-! ## Resolving against an absolute base -/

/-- A relative path adds its components to the absolute path it is seen from. -/
theorem components_join (hp : p.isAbsolute = true) (hq : q.isAbsolute = false) :
    (p.join q).components = p.components ++ Component.ofBytes q.bytes := by
  rw [components_of_isAbsolute (isAbsolute_join hp), ofBytes_bytes_join hq,
    components_of_isAbsolute hp, List.cons_append]

/-- A path may be cleaned before a relative path is seen from it. -/
theorem clean_join_clean (hp : p.isAbsolute = true) (hq : q.isAbsolute = false) :
    (p.clean.join q).clean = (p.join q).clean := by
  apply clean_congr
  have hstack : p.clean.components.foldl cleanStep [] = p.components.foldl cleanStep [] :=
    List.reverse_injective (cleanComponents_components_clean p)
  rw [components_join (isAbsolute_clean hp) hq, components_join hp hq, cleanComponents,
    cleanComponents, List.foldl_append, List.foldl_append, hstack]

theorem join_of_isAbsolute (hq : q.isAbsolute = true) : p.join q = q := if_pos hq

/-- Two relative paths can be joined first. -/
theorem clean_join_join (hb : b.isAbsolute = true) (hq : q.isAbsolute = false) :
    ((b.join p).join q).clean = (b.join (p.join q)).clean := by
  cases hp : p.isAbsolute with
  | true => rw [join_of_isAbsolute hp, join_of_isAbsolute (isAbsolute_join hp)]
  | false =>
      apply clean_congr
      rw [components_join (isAbsolute_join hb) hq, components_join hb hp,
        components_join hb (isAbsolute_join_of_relative hp hq), ofBytes_bytes_join hq,
        List.append_assoc]

/-- To resolve is to join and to clean. -/
theorem resolve_eq_clean_join (hb : b.isAbsolute = true) (p cwd : Path) :
    b.resolve p cwd = (b.join p).clean := by
  cases hp : p.isAbsolute with
  | true => rw [resolve, if_pos hp, join_of_isAbsolute hp]
  | false => exact resolve_of_relative hb hp cwd

theorem resolve_of_absolute (hq : q.isAbsolute = true) : p.resolve q cwd = q.clean := if_pos hq

theorem clean_resolve (hb : b.isAbsolute = true) (p cwd : Path) :
    (b.resolve p cwd).clean = b.resolve p cwd := by
  rw [resolve_eq_clean_join hb, clean_clean]

/-- Resolving a relative path against what was resolved is resolving both at once. -/
theorem resolve_resolve (hb : b.isAbsolute = true) (hq : q.isAbsolute = false) :
    (b.resolve p cwd).resolve q cwd = b.resolve (p.join q) cwd := by
  rw [resolve_eq_clean_join (isAbsolute_resolve hb p cwd), resolve_eq_clean_join hb,
    clean_join_clean (isAbsolute_join hb) hq, clean_join_join hb hq, resolve_eq_clean_join hb]

/-- What was resolved stays as it is. -/
theorem resolve_again (hb : b.isAbsolute = true) (p cwd : Path) :
    b.resolve (b.resolve p cwd) cwd = b.resolve p cwd := by
  rw [resolve_of_absolute (isAbsolute_resolve hb p cwd), clean_resolve hb]

/-- To resolve the parts of a path one after the other is to join all of them and to clean
once. -/
theorem foldl_resolve (hb : b.isAbsolute = true) (parts : List Path) :
    parts.foldl (fun place part => place.resolve part cwd) b.clean =
      (parts.foldl join b).clean := by
  induction parts generalizing b with
  | nil => rfl
  | cons part parts ih =>
      have hstep : b.clean.resolve part cwd = (b.join part).clean := by
        cases hpart : part.isAbsolute with
        | true => rw [resolve_of_absolute hpart, join_of_isAbsolute hpart]
        | false =>
            rw [resolve_eq_clean_join (isAbsolute_clean hb), clean_join_clean hb hpart]
      rw [List.foldl_cons, List.foldl_cons, hstep, ih (isAbsolute_join hb)]

/-! ## Lists of paths -/

/-- The clean spelling of a path. -/
def cleanSpelling (text : String) : String := (clean ⟨text⟩).text

theorem mk_cleanSpelling (text : String) : (⟨cleanSpelling text⟩ : Path) = clean ⟨text⟩ :=
  mk_text (isText_clean (isText_mk text))

theorem cleanSpelling_inj {text other : String} : cleanSpelling text = cleanSpelling other ↔
    clean ⟨text⟩ = clean ⟨other⟩ :=
  text_inj (isText_clean (isText_mk text)) (isText_clean (isText_mk other))

theorem cleanSpelling_cleanSpelling (text : String) :
    cleanSpelling (cleanSpelling text) = cleanSpelling text := by
  rw [cleanSpelling, mk_cleanSpelling, clean_clean]
  rfl

/-- A list is normalized to the clean spellings without repetitions. -/
theorem normalizeAll_eq (paths : List String) :
    normalizeAll paths = Specifier.distinct (paths.map cleanSpelling) := by
  rw [Specifier.distinct, List.foldl_map]
  rfl

theorem mem_normalizeAll {paths : List String} {text : String} :
    text ∈ normalizeAll paths ↔ ∃ path ∈ paths, cleanSpelling path = text := by
  rw [normalizeAll_eq, Specifier.mem_distinct, List.mem_map]

theorem normalizeAll_normalizeAll (paths : List String) :
    normalizeAll (normalizeAll paths) = normalizeAll paths := by
  have hclean : (normalizeAll paths).map cleanSpelling = normalizeAll paths := by
    refine (List.map_congr_left fun text htext => ?_).trans (List.map_id _)
    obtain ⟨path, -, rfl⟩ := mem_normalizeAll.mp htext
    exact cleanSpelling_cleanSpelling path
  rw [normalizeAll_eq (normalizeAll paths), hclean, normalizeAll_eq,
    Specifier.distinct_of_nodup (Specifier.nodup_distinct _)]

/-- A list has the clean spellings of paths as its items, each once and in the order of their
first occurrences.  Two of the paths share an item if their clean forms are the same. -/
structure Normalizes (paths result : List String) : Prop where
  nodup : result.Nodup
  mem_iff : ∀ text, text ∈ result ↔ ∃ path ∈ paths, cleanSpelling path = text
  inOrder : result.Pairwise fun text other =>
    (paths.map cleanSpelling).idxOf text < (paths.map cleanSpelling).idxOf other
  shared_iff : ∀ path ∈ paths, ∀ other ∈ paths,
    result.idxOf (cleanSpelling path) = result.idxOf (cleanSpelling other) ↔
      clean ⟨path⟩ = clean ⟨other⟩

theorem normalizeAll_normalizes (paths : List String) : Normalizes paths (normalizeAll paths) where
  nodup := by
    rw [normalizeAll_eq]
    exact Specifier.nodup_distinct _
  mem_iff := fun _ => mem_normalizeAll
  inOrder := by
    rw [normalizeAll_eq]
    exact Specifier.distinct_inOrder _
  shared_iff := fun path hpath other _ =>
    (List.idxOf_inj (mem_normalizeAll.mpr ⟨path, hpath, rfl⟩)).trans cleanSpelling_inj

/-- Against an absolute base it makes no difference whether paths are resolved one after the
other or joined first, and what was resolved is absolute, clean and stays as it is.  So lists of
paths are normalized once and for all. -/
theorem resolve_inSteps (cwd : Path) :
    (∀ b : Path, b.isAbsolute = true →
      (∀ p q : Path, (b.resolve p cwd).resolve q cwd =
        if q.isAbsolute then q.clean else b.resolve (p.join q) cwd) ∧
      (∀ p : Path, b.resolve (b.resolve p cwd) cwd = b.resolve p cwd) ∧
      (∀ p : Path, (b.resolve p cwd).isAbsolute = true ∧
        (b.resolve p cwd).clean = b.resolve p cwd ∧
        ∃ names, (∀ name ∈ names, IsName name) ∧ b.resolve p cwd = ofNames names) ∧
      ∀ parts : List Path, parts.foldl (fun place part => place.resolve part cwd) b.clean =
        (parts.foldl join b).clean) ∧
      ∀ paths : List String, normalizeAll (normalizeAll paths) = normalizeAll paths ∧
        Normalizes paths (normalizeAll paths) := by
  refine ⟨fun b hb => ⟨fun p q => ?_, fun p => resolve_again hb p cwd, fun p =>
    ⟨isAbsolute_resolve hb p cwd, clean_resolve hb p cwd, exists_resolve_eq_ofNames hb p cwd⟩,
    foldl_resolve hb⟩, fun paths => ⟨normalizeAll_normalizeAll paths,
    normalizeAll_normalizes paths⟩⟩
  cases hq : q.isAbsolute with
  | true => exact resolve_of_absolute hq
  | false => exact resolve_resolve hb hq

theorem resolve_pastTheRoot :
    ((⟨"/app/./lib"⟩ : Path).resolve ⟨"../../.."⟩ ⟨"/"⟩).resolve ⟨"x//y/.."⟩ ⟨"/"⟩ =
        (⟨"/app/./lib"⟩ : Path).resolve ⟨"../../../x//y/.."⟩ ⟨"/"⟩ ∧
      (⟨"/app/./lib"⟩ : Path).resolve ⟨"../../../x//y/.."⟩ ⟨"/"⟩ = ⟨"/x"⟩ := by
  obtain ⟨hsteps, -⟩ := (resolve_inSteps ⟨"/"⟩).1 ⟨"/app/./lib"⟩ (by decide)
  exact ⟨hsteps ⟨"../../.."⟩ ⟨"x//y/.."⟩, by decide +kernel⟩

end Path

end BundleConfig
