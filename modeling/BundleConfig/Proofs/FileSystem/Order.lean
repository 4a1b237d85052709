import BundleConfig.Proofs.FileSystem.Removal
import BundleConfig.Proofs.FileSystem.Walk
import BundleConfig.Proofs.Text.Raw
import Mathlib.Data.List.Lex

/-!
# The order of a walk

A walk from any path, be it relative or not clean, visits the files below it in the order of the
names that lead to them: at the first place where two of them part, the smaller name comes first
(`FileSystem.exists_walk_eq`).  So it visits each of them once.

Which files these are depends on the test of the walk and on the length of the directories' paths
(`FileSystem.Passes`).  At a link the walk starts without testing it.  That makes no difference to
a test that refuses every entry of a path it refuses (`FileSystem.Inherited`), and being in
ignored locations is refused in this way (`FileSystem.inherited_isIn`).
-/

namespace BundleConfig

open RawText (slash)

namespace Path

/-! ## Paths below a base -/

/-- The path that some names lead to from a base. -/
def descend (base : Path) (below : List RawText) : Path := below.foldl entry base

@[simp] theorem descend_nil (base : Path) : base.descend [] = base := rfl

@[simp] theorem descend_cons (base : Path) (name : RawText) (below : List RawText) :
    base.descend (name :: below) = (base.entry name).descend below := rfl

theorem descend_concat (base : Path) (below : List RawText) (name : RawText) :
    base.descend (below ++ [name]) = (base.descend below).entry name :=
  List.foldl_concat entry base name below

variable {p cwd : Path} {name : RawText}

/-- The name of an entry is its last component. -/
theorem components_entry (hp : p.isAbsolute = true) (hname : IsName name) :
    (p.entry name).components = p.components ++ [.normal name] := by
  have hlast : Component.ofBytes name.bytes = [.normal name] := by
    rw [Component.ofBytes, Text.split_of_not_mem hname.not_mem_slash, List.filter_singleton,
      Component.isPiece_bytes hname]
    exact congrArg (fun c => [c]) (Component.ofPiece_bytes hname)
  obtain ⟨cs, hcs⟩ := isAbsolute_iff.mp hp
  have hentry := bytes_entry p hname.not_mem_slash
  rw [leading] at hentry
  split at hentry
  next hslash =>
    have hslash : p.bytes.getLast? = some slash := by
      rw [hcs] at hslash ⊢
      exact hslash.resolve_left Bool.false_ne_true
    rw [hcs, List.cons_append] at hentry
    rw [components_of_bytes hentry, components_of_bytes hcs, List.cons_append]
    refine congrArg _ ?_
    rcases List.eq_nil_or_concat cs with rfl | ⟨front, last, rfl⟩
    · exact hlast
    · rw [List.concat_eq_append] at hcs ⊢
      rw [hcs, ← List.cons_append, List.getLast?_concat] at hslash
      cases hslash
      rw [List.append_assoc, List.singleton_append, Component.ofBytes_append,
        Component.ofBytes_append, hlast]
      exact (congrArg (· ++ [Component.normal name]) (List.append_nil _)).symm
  next =>
    rw [hcs, List.append_assoc, List.cons_append, List.singleton_append] at hentry
    rw [components_of_bytes hentry, components_of_bytes hcs, Component.ofBytes_append, hlast,
      List.cons_append]

theorem leading_join (hp : p.isAbsolute = false) :
    (cwd.join p).leading = cwd.leading ++ p.leading := by
  rw [leading, bytes_join_of_not_absolute hp]
  cases hbytes : p.bytes with
  | nil =>
      have hleading : p.leading = [] := by rw [leading, hbytes]; rfl
      rw [hleading, List.append_nil]
      obtain hnil | ⟨cs, hcs⟩ := cwd.leading_eq
      · rw [if_pos (.inl (by rw [hnil]; rfl))]
      · rw [if_pos (.inr (by rw [hcs, List.getLast?_concat]))]
  | cons c cs =>
      have hempty : (cwd.leading ++ c :: cs).isEmpty = false := by cases cwd.leading <;> rfl
      have hlast : (cwd.leading ++ c :: cs).getLast? = (c :: cs).getLast? :=
        List.getLast?_append_cons _ _ _
      have hleading : p.leading = if (c :: cs).isEmpty ∨ (c :: cs).getLast? = some slash then
          c :: cs else c :: cs ++ [slash] := by rw [leading, hbytes]
      rw [hempty, hlast, hleading, List.isEmpty_cons]
      split
      · rfl
      · exact List.append_assoc _ _ _

/-- An entry seen from a directory is the entry of the path seen from there. -/
theorem join_entry (hp : p.isAbsolute = false) (hname : slash ∉ name.bytes) :
    cwd.join (p.entry name) = (cwd.join p).entry name := by
  have hentry : (p.entry name).isAbsolute = false := (isAbsolute_entry_eq p hname).trans hp
  apply eq_of_bytes
  rw [bytes_join_of_not_absolute hentry, bytes_entry p hname, bytes_entry _ hname,
    leading_join hp, List.append_assoc]

/-- Cleaning an entry of an absolute path puts its name behind the clean path. -/
theorem exists_clean_entry (hp : p.isAbsolute = true) :
    ∃ names, (∀ name ∈ names, IsName name) ∧ p.clean = ofNames names ∧
      ∀ name, IsName name → (p.entry name).clean = ofNames (names ++ [name]) := by
  obtain ⟨names, hnames, hstack⟩ := exists_stack_of_isAbsolute hp
  refine ⟨names, hnames, clean_of_stack hstack, fun name hname => clean_of_stack ?_⟩
  rw [components_entry hp hname, List.foldl_append, hstack, List.map_append, List.reverse_append]
  rfl

/-- Seen from the working directory, a path and its entry are paths of names. -/
theorem exists_absolute_entry (hcwd : cwd.isAbsolute = true) (p : Path) :
    ∃ names, (∀ name ∈ names, IsName name) ∧ p.absolute cwd = ofNames names ∧
      ∀ name, IsName name → (p.entry name).absolute cwd = ofNames (names ++ [name]) := by
  cases hp : p.isAbsolute with
  | true =>
      obtain ⟨names, hnames, hclean, hentry⟩ := exists_clean_entry hp
      refine ⟨names, hnames, (absolute_of_isAbsolute hp cwd).trans hclean, fun name hname => ?_⟩
      rw [absolute_of_isAbsolute (isAbsolute_entry hp name), hentry name hname]
  | false =>
      obtain ⟨names, hnames, hclean, hentry⟩ := exists_clean_entry (isAbsolute_join (q := p) hcwd)
      refine ⟨names, hnames, ?_, fun name hname => ?_⟩
      · rw [absolute, hp, if_neg Bool.false_ne_true, hclean]
      · rw [absolute, isAbsolute_entry_eq p hname.not_mem_slash, hp, if_neg Bool.false_ne_true,
          join_entry hp hname.not_mem_slash, hentry name hname]

/-- So is every path below it. -/
theorem exists_absolute_descend (hcwd : cwd.isAbsolute = true) (base : Path) :
    ∃ names, (∀ name ∈ names, IsName name) ∧
      ∀ below, (∀ name ∈ below, IsName name) →
        (base.descend below).absolute cwd = ofNames (names ++ below) := by
  obtain ⟨names, hnames, habsolute, -⟩ := exists_absolute_entry hcwd base
  refine ⟨names, hnames, fun below => ?_⟩
  induction below using List.reverseRecOn with
  | nil =>
      intro _
      rw [List.append_nil, descend_nil, habsolute]
  | append_singleton below name ih =>
      intro hall
      obtain ⟨hbelow, hname⟩ := List.forall_mem_append.mp hall
      have hname := List.forall_mem_singleton.mp hname
      obtain ⟨names', hnames', habsolute', hentry⟩ :=
        exists_absolute_entry hcwd (base.descend below)
      have hsame : names' = names ++ below := by
        apply ofNames_injective hnames' (List.forall_mem_append.mpr ⟨hnames, hbelow⟩)
        rw [← habsolute', ih hbelow]
      rw [descend_concat, hentry name hname, hsame, List.append_assoc]

/-- Different names lead to different paths. -/
theorem descend_injective (hcwd : cwd.isAbsolute = true) {base : Path} {below below' : List RawText}
    (h : ∀ name ∈ below, IsName name) (h' : ∀ name ∈ below', IsName name)
    (heq : base.descend below = base.descend below') : below = below' := by
  obtain ⟨names, hnames, habsolute⟩ := exists_absolute_descend hcwd base
  have hsame : ofNames (names ++ below) = ofNames (names ++ below') := by
    rw [← habsolute below h, ← habsolute below' h', heq]
  exact List.append_cancel_left (ofNames_injective (List.forall_mem_append.mpr ⟨hnames, h⟩)
    (List.forall_mem_append.mpr ⟨hnames, h'⟩) hsame)

end Path

namespace FileSystem

variable {keep : Path → Bool} {fs : FileSystem}

/-! ## Tests of a walk -/

/-- A test that refuses every entry of a path it refuses. -/
def Inherited (keep : Path → Bool) : Prop :=
  ∀ p name, IsName name → keep (p.entry name) = true → keep p = true

/-- What is in ignored locations has its entries there too. -/
theorem inherited_isIn (hcwd : fs.workingDirectory.isAbsolute = true) (ignored : List Path) :
    Inherited fun p => !fs.isIn p ignored := by
  intro p name hname hkeep
  rw [Bool.not_eq_true', ← Bool.not_eq_true] at hkeep ⊢
  intro hin
  refine hkeep ?_
  obtain ⟨location, hlocation, hstart⟩ := List.any_eq_true.mp hin
  refine List.any_eq_true.mpr ⟨location, hlocation, ?_⟩
  obtain ⟨names, hnames, habsolute, hentry⟩ := Path.exists_absolute_entry hcwd p
  obtain ⟨top, htop, htopAbsolute, -⟩ := Path.exists_absolute_entry hcwd location
  rw [habsolute, htopAbsolute, Path.startsWith_ofNames hnames htop] at hstart
  have hall : ∀ other ∈ names ++ [name], IsName other :=
    List.forall_mem_append.mpr ⟨hnames, List.forall_mem_singleton.mpr hname⟩
  rw [hentry name hname, htopAbsolute, Path.startsWith_ofNames hall htop]
  exact hstart.trans (List.prefix_append names [name])

/-- A walk from a path gets to some names below it: it keeps what they lead to and every
directory on the way, and it can open these directories. -/
def Passes (keep : Path → Bool) : Path → List RawText → Prop
  | p, [] => keep p = true
  | p, name :: below => keep p = true ∧ isTooLong p = false ∧ Passes keep (p.entry name) below

theorem Passes.keep_start {p : Path} {below : List RawText} (h : Passes keep p below) :
    keep p = true := by
  cases below with
  | nil => exact h
  | cons name below => exact h.1

theorem forall_prefix_cons {α : Type} {x : α} {xs : List α} {Q : List α → Prop} :
    (∀ above, above <+: x :: xs → Q above) ↔ Q [] ∧ ∀ above, above <+: xs → Q (x :: above) := by
  simp only [List.prefix_cons_iff]
  constructor
  · intro h
    exact ⟨h [] (.inl rfl), fun above habove => h (x :: above) (.inr ⟨above, rfl, habove⟩)⟩
  · rintro ⟨hnil, hcons⟩ above (rfl | ⟨rest, rfl, hrest⟩)
    · exact hnil
    · exact hcons rest hrest

theorem passes_iff {p : Path} {below : List RawText} :
    Passes keep p below ↔
      (∀ above, above <+: below → keep (p.descend above) = true) ∧
        ∀ above, above <+: below → above ≠ below → isTooLong (p.descend above) = false := by
  induction below generalizing p with
  | nil => simp [Passes]
  | cons name below ih =>
      rw [Passes, ih, forall_prefix_cons, forall_prefix_cons]
      simp only [Path.descend_nil, Path.descend_cons, ne_eq, List.cons.injEq, true_and,
        List.nil_eq, reduceCtorEq, not_false_eq_true, forall_const]
      exact and_assoc.symm.trans and_and_and_comm

/-! ## Below a node -/

/-- The files and links at or below a node at a path, with the names that lead to them. -/
structure Lists (keep : Path → Bool) (p : Path) (node : Node)
    (found : List (List RawText × Node)) : Prop where
  /-- They are in the order of the names. -/
  ordered : found.Pairwise fun e e' => e.1 < e'.1
  /-- They are those the walk gets to. -/
  mem_iff : ∀ below leaf, (below, leaf) ∈ found ↔
    node.at? below = some leaf ∧ leaf.isDirectory = false ∧ Passes keep p below

theorem leavesByName_eq_map (p : Path) (entries : List (RawText × Node)) :
    leavesByName keep p entries = entries.map fun e => (e.1, leavesAt keep (p.entry e.1) e.2) := by
  induction entries with
  | nil => rfl
  | cons entry rest ih =>
      obtain ⟨name, node⟩ := entry
      rw [leavesByName, List.map_cons, ih]

/-- What is below a directory is what is below its entries, in the order of their names. -/
theorem leavesOfEntries_eq_flatMap (p : Path) (entries : List (RawText × Node)) :
    inNameOrder (leavesByName keep p entries) =
      (sorted entries).flatMap fun e => leavesAt keep (p.entry e.1) e.2 := by
  rw [inNameOrder, leavesByName_eq_map, sorted]
  rw [← List.map_mergeSort (r := fun a b => decide (a.1 ≤ b.1)) (fun _ _ _ _ => rfl),
    List.flatMap_map]

/-- Sorted entries with different names are in strict order. -/
theorem pairwise_sorted {entries : Table Node RawText} (hn : entries.keys.Nodup) :
    (sorted entries).Pairwise fun e e' => e.1 < e'.1 := by
  have hle : (sorted entries).Pairwise fun e e' => e.1 ≤ e'.1 := by
    refine (List.pairwise_mergeSort ?_ ?_ entries).imp of_decide_eq_true
    · intro a b c hab hbc
      exact decide_eq_true (le_trans (of_decide_eq_true hab) (of_decide_eq_true hbc))
    · intro a b
      rw [Bool.or_eq_true, decide_eq_true_eq, decide_eq_true_eq]
      exact le_total a.1 b.1
  have hne : (sorted entries).Pairwise fun e e' => e.1 ≠ e'.1 :=
    List.pairwise_map.mp (((List.mergeSort_perm entries _).map _).nodup_iff.mpr hn)
  exact (hle.and hne).imp fun h => lt_of_le_of_ne h.1 h.2

/-- A file or a link is at no names below itself. -/
theorem lists_leaf {node : Node} (hnode : node.isDirectory = false) (p : Path) :
    Lists keep p node (if keep p then [([], node)] else []) := by
  constructor
  · split
    · exact List.pairwise_singleton _ _
    · exact .nil
  · intro below leaf
    rw [List.mem_ite_nil_right, List.mem_singleton, Prod.mk.injEq]
    constructor
    · rintro ⟨hkeep, rfl, rfl⟩
      exact ⟨rfl, hnode, hkeep⟩
    · rintro ⟨hat, -, hpasses⟩
      by_cases hbelow : below = []
      · subst hbelow
        exact ⟨hpasses, rfl, (Option.some.inj hat).symm⟩
      · rw [Node.at?_of_isDirectory_eq_false hnode hbelow] at hat
        cases hat

/-- What is at some names below a directory is below one of its entries. -/
theorem at?_directory_iff {entries : List (RawText × Node)} (hn : (Table.keys entries).Nodup)
    {below : List RawText} {leaf : Node} (hleaf : leaf.isDirectory = false) :
    (Node.directory entries).at? below = some leaf ↔
      ∃ name rest child, below = name :: rest ∧ (name, child) ∈ entries ∧
        child.at? rest = some leaf := by
  cases below with
  | nil =>
      constructor
      · intro hat
        cases hat
        cases hleaf
      · rintro ⟨name, rest, child, hnil, -⟩
        cases hnil
  | cons name rest =>
      rw [Node.at?_cons_eq_some_iff]
      constructor
      · rintro ⟨_, child, heq, hget, hat⟩
        cases heq
        exact ⟨name, rest, child, rfl, Table.mem_of_get? hget, hat⟩
      · rintro ⟨_, _, child, heq, hmem, hat⟩
        cases heq
        exact ⟨entries, child, rfl, (Table.get?_eq_some_iff hn).mpr hmem, hat⟩

/-- The entries of a directory that is kept and opened are listed one after the other. -/
theorem lists_directory {p : Path} {entries : List (RawText × Node)}
    (hn : (Table.keys entries).Nodup) (hkeep : keep p = true) (hshort : isTooLong p = false)
    {found : RawText × Node → List (List RawText × Node)}
    (h : ∀ entry ∈ entries, Lists keep (p.entry entry.1) entry.2 (found entry)) :
    Lists keep p (.directory entries)
      ((sorted entries).flatMap fun entry => (found entry).map fun e => (entry.1 :: e.1, e.2)) := by
  have hmem : ∀ {entry : RawText × Node}, entry ∈ sorted entries ↔ entry ∈ entries :=
    List.mem_mergeSort
  constructor
  · rw [List.pairwise_flatMap]
    constructor
    · intro entry hentry
      rw [List.pairwise_map]
      exact (h entry (hmem.mp hentry)).ordered.imp List.cons_lt_cons_self.mpr
    · refine (pairwise_sorted hn).imp fun hlt x hx y hy => ?_
      obtain ⟨e, -, rfl⟩ := List.mem_map.mp hx
      obtain ⟨e', -, rfl⟩ := List.mem_map.mp hy
      exact List.cons_lt_cons_iff.mpr (.inl hlt)
  · intro below leaf
    rw [List.mem_flatMap]
    constructor
    · rintro ⟨⟨name, child⟩, hentry, hfound⟩
      have hentry := hmem.mp hentry
      obtain ⟨⟨rest, leaf'⟩, hrest, heq⟩ := List.mem_map.mp hfound
      cases heq
      obtain ⟨hat, hleaf, hpasses⟩ := ((h _ hentry).mem_iff rest leaf').mp hrest
      exact ⟨(at?_directory_iff hn hleaf).mpr ⟨name, rest, child, rfl, hentry, hat⟩, hleaf,
        hkeep, hshort, hpasses⟩
    · rintro ⟨hat, hleaf, hpasses⟩
      obtain ⟨name, rest, child, rfl, hentry, hat⟩ := (at?_directory_iff hn hleaf).mp hat
      exact ⟨(name, child), hmem.mpr hentry, List.mem_map.mpr
        ⟨(rest, leaf), ((h _ hentry).mem_iff rest leaf).mpr ⟨hat, hleaf, hpasses.2.2⟩, rfl⟩⟩

/-- Nothing is listed in a directory that is refused or cannot be opened. -/
theorem lists_nil {p : Path} {entries : List (RawText × Node)}
    (hclosed : ¬ (keep p && !isTooLong p) = true) : Lists keep p (.directory entries) [] := by
  constructor
  · exact .nil
  · intro below leaf
    refine ⟨nofun, ?_⟩
    rintro ⟨hat, hleaf, hpasses⟩
    cases below with
    | nil =>
        cases hat
        cases hleaf
    | cons name rest =>
        obtain ⟨hkeep, hshort, -⟩ := hpasses
        rw [hkeep, hshort] at hclosed
        exact (hclosed rfl).elim

/-- What a walk visits at or below a node. -/
theorem exists_leavesAt_eq {node : Node} (hnode : node.WellFormed) (p : Path) :
    ∃ found, leavesAt keep p node = found.map (fun e => (p.descend e.1, e.2)) ∧
      Lists keep p node found := by
  induction hnode generalizing p with
  | file content =>
      refine ⟨_, ?_, lists_leaf rfl p⟩
      rw [leavesAt]
      split <;> rfl
  | link target =>
      refine ⟨_, ?_, lists_leaf rfl p⟩
      rw [leavesAt]
      split <;> rfl
  | @directory entries hkeys hnames hnodes ih =>
      rw [leavesAt]
      split
      next hopen =>
        rw [Bool.and_eq_true, Bool.not_eq_true'] at hopen
        choose! found hleaves hlists using fun entry hentry => ih entry hentry (p.entry entry.1)
        refine ⟨_, ?_, lists_directory hkeys hopen.1 hopen.2 hlists⟩
        rw [leavesOfEntries_eq_flatMap, List.map_flatMap]
        refine List.flatMap_congr fun entry hentry => ?_
        rw [hleaves entry (List.mem_mergeSort.mp hentry), List.map_map]
        rfl
      next hclosed => exact ⟨[], rfl, lists_nil hclosed⟩

/-! ## From a path -/

/-- In a refused directory nothing is visited. -/
theorem Inherited.refused (hkeep : Inherited keep) {entries : List (RawText × Node)}
    (hnode : (Node.directory entries).WellFormed) {p : Path} (hp : keep p = false) :
    inNameOrder (leavesByName keep p entries) = [] := by
  cases hnode with
  | directory hkeys hnames hnodes =>
      rw [leavesOfEntries_eq_flatMap, List.flatMap_eq_nil_iff]
      intro entry hentry
      have hentry : entry ∈ entries := List.mem_mergeSort.mp hentry
      obtain ⟨found, hleaves, hlists⟩ :=
        @exists_leavesAt_eq keep _ (hnodes entry hentry) (p.entry entry.1)
      rw [hleaves, List.map_eq_nil_iff, List.eq_nil_iff_forall_not_mem]
      rintro ⟨below, leaf⟩ hmem
      obtain ⟨-, -, hpasses⟩ := (hlists.mem_iff below leaf).mp hmem
      have hkept := hkeep p entry.1 (hnames entry hentry).toIsName hpasses.keep_start
      rw [hp] at hkept
      cases hkept

/-- Some names lead from a base to a regular file, without following links below it. -/
def FileBelow (fs : FileSystem) (base : Path) (below : List RawText) : Prop :=
  ∃ node content, fs.start? base = some node ∧ node.at? below = some (.file content)

/-- A walk visits the files it gets to, in the order of the names that lead to them. -/
theorem exists_walk_eq (hkeep : Inherited keep) (hfs : fs.WellFormed) (base : Path) :
    ∃ names : List (List RawText), fs.walk keep base = names.map base.descend ∧
      names.Pairwise (· < ·) ∧
      ∀ below, below ∈ names ↔ fs.FileBelow base below ∧ Passes keep base below := by
  rw [walk, leaves_eq hfs fun entries hget => hkeep.refused (wellFormed_of_get? hfs hget).1]
  cases hstart : fs.start? base with
  | none =>
      refine ⟨[], rfl, .nil, fun below => ⟨nofun, ?_⟩⟩
      rintro ⟨⟨node, content, hnode, -⟩, -⟩
      rw [hstart] at hnode
      cases hnode
  | some node =>
      have hnode := (wellFormed_of_get? hfs (start?_eq_some_iff.mp hstart).1).1
      obtain ⟨found, hleaves, hlists⟩ := @exists_leavesAt_eq keep _ hnode base
      refine ⟨(found.filter (·.2.isFile)).map (·.1), ?_, ?_, fun below => ?_⟩
      · rw [Option.map_some, Option.getD_some, hleaves, List.filter_map, List.map_map, List.map_map]
        rfl
      · exact List.pairwise_map.mpr (hlists.ordered.filter _)
      · simp only [List.mem_map, List.mem_filter, Prod.exists, exists_and_right, exists_eq_right]
        constructor
        · rintro ⟨leaf, hmem, hfile⟩
          obtain ⟨hat, -, hpasses⟩ := (hlists.mem_iff below leaf).mp hmem
          cases leaf with
          | file content => exact ⟨⟨node, content, hstart, hat⟩, hpasses⟩
          | directory => cases hfile
          | link => cases hfile
        · rintro ⟨⟨node', content, hnode', hat⟩, hpasses⟩
          cases hstart.symm.trans hnode'
          exact ⟨.file content, (hlists.mem_iff below _).mpr ⟨hat, rfl, hpasses⟩, rfl⟩

end FileSystem

end BundleConfig
