import BundleConfig.FileSystem.Walk
import BundleConfig.Proofs.FileSystem.Lookup

/-!
# What a walk visits

`FileSystem.Reaches` says which regular files lie below a path, in terms of the tree
alone.  A walk visits just these, as far as they are kept and the directories on the
way can be opened (`FileSystem.reaches_of_mem_walk`, `FileSystem.mem_walk_of_reaches`).

The test of a walk refuses an entry with everything below it.  So the two agree for
tests that are *closed*: what is below a refused path is refused too.
-/

namespace BundleConfig

namespace Path

theorem foldl_entry_ofNames {names below : List RawText} (h : ∀ name ∈ names, IsName name)
    (hbelow : ∀ name ∈ below, IsName name) :
    below.foldl entry (ofNames names) = ofNames (names ++ below) := by
  induction below generalizing names with
  | nil => rw [List.append_nil]; rfl
  | cons name below ih =>
      obtain ⟨hname, hbelow⟩ := List.forall_mem_cons.mp hbelow
      have hnames : ∀ other ∈ names ++ [name], IsName other :=
        List.forall_mem_append.mpr ⟨h, List.forall_mem_singleton.mpr hname⟩
      rw [List.foldl_cons, entry_ofNames h hname, ih hnames hbelow, List.append_assoc]
      rfl

end Path

namespace FileSystem

variable {keep : Path → Bool}

/-! ## Reaching files -/

/-- The directory or file that a walk from a path starts at.  A link at the path leads
to a directory only. -/
def start? (fs : FileSystem) (p : Path) : Option Node :=
  (fs.get? p).filter fun node => node.isDirectory || !fs.isLink p

/-- The regular file `q` is reached from `base` without following links below it. -/
def Reaches (fs : FileSystem) (base q : Path) : Prop :=
  ∃ node below content, fs.start? base = some node ∧ node.at? below = some (.file content) ∧
    q = below.foldl Path.entry base

/-- A test that refuses what is below a path it refuses. -/
def Closed (keep : Path → Bool) : Prop :=
  ∀ names more, (∀ name ∈ names ++ more, IsName name) →
    keep (.ofNames (names ++ more)) = true → keep (.ofNames names) = true

/-! ## Below a node -/

theorem mem_inNameOrder {α : Type} {lists : List (RawText × List α)} {x : α} :
    x ∈ inNameOrder lists ↔ ∃ list ∈ lists, x ∈ list.2 := by
  simp [inNameOrder]

theorem mem_leavesByName {p : Path} {entries : List (RawText × Node)} {leaves : List (Path × Node)}
    {name : RawText} :
    (name, leaves) ∈ leavesByName keep p entries ↔
      ∃ node, (name, node) ∈ entries ∧ leavesAt keep (p.entry name) node = leaves := by
  induction entries with
  | nil => simp [leavesByName]
  | cons entry entries ih =>
      obtain ⟨first, node⟩ := entry
      rw [leavesByName, List.mem_cons, ih]
      constructor
      · rintro (heq | ⟨other, hmem, heq⟩)
        · cases heq
          exact ⟨node, List.mem_cons_self, rfl⟩
        · exact ⟨other, List.mem_cons_of_mem _ hmem, heq⟩
      · rintro ⟨other, hmem, rfl⟩
        obtain heq | hmem := List.mem_cons.mp hmem
        · cases heq
          exact .inl rfl
        · exact .inr ⟨other, hmem, rfl⟩

/-- What is visited below a directory is visited below one of its entries. -/
theorem mem_leavesOfEntries {names : List RawText} (h : ∀ name ∈ names, IsName name)
    {entries : List (RawText × Node)} (hentries : ∀ entry ∈ entries, IsEntryName entry.1)
    {leaf : Path × Node} :
    leaf ∈ inNameOrder (leavesByName keep (.ofNames names) entries) ↔
      ∃ name child, (name, child) ∈ entries ∧
        leaf ∈ leavesAt keep (.ofNames (names ++ [name])) child := by
  have hentry : ∀ {name : RawText} {child : Node}, (name, child) ∈ entries →
      (Path.ofNames names).entry name = .ofNames (names ++ [name]) := fun hmem =>
    Path.entry_ofNames h (hentries _ hmem).toIsName
  rw [mem_inNameOrder]
  constructor
  · rintro ⟨⟨name, leaves⟩, hlist, hleaf⟩
    obtain ⟨child, hchild, rfl⟩ := mem_leavesByName.mp hlist
    exact ⟨name, child, hchild, hentry hchild ▸ hleaf⟩
  · rintro ⟨name, child, hchild, hleaf⟩
    exact ⟨_, mem_leavesByName.mpr ⟨child, hchild, rfl⟩, (hentry hchild).symm ▸ hleaf⟩

/-- Whatever is visited below a node is there, and is kept. -/
theorem at?_of_mem_leavesAt {node : Node} (hnode : node.WellFormed) {names : List RawText}
    (hnames : ∀ name ∈ names, IsName name) {q : Path} {leaf : Node}
    (h : (q, leaf) ∈ leavesAt keep (.ofNames names) node) :
    keep q = true ∧ ∃ below, node.at? below = some leaf ∧ q = .ofNames (names ++ below) := by
  induction hnode generalizing names with
  | file content =>
      rw [leavesAt] at h
      split at h
      next hkeep =>
        cases List.mem_singleton.mp h
        exact ⟨hkeep, [], rfl, by rw [List.append_nil]⟩
      next => cases h
  | link target =>
      rw [leavesAt] at h
      split at h
      next hkeep =>
        cases List.mem_singleton.mp h
        exact ⟨hkeep, [], rfl, by rw [List.append_nil]⟩
      next => cases h
  | @directory entries hkeys hentries hnodes ih =>
      rw [leavesAt] at h
      split at h
      next =>
        obtain ⟨name, child, hchild, hq⟩ := (mem_leavesOfEntries hnames hentries).mp h
        obtain ⟨hkeep, below, hat, rfl⟩ := ih _ hchild
          (isName_append hnames (List.forall_mem_singleton.mpr (hentries _ hchild))) hq
        refine ⟨hkeep, name :: below, ?_, by rw [List.append_assoc]; rfl⟩
        exact Node.at?_cons_eq_some_iff.mpr
          ⟨entries, child, rfl, (Table.get?_eq_some_iff hkeys).mpr hchild, hat⟩
      next => cases h

/-- A kept file or link below a node is visited, if the directories on the way can be
opened. -/
theorem mem_leavesAt (hclosed : Closed keep) {node : Node} (hnode : node.WellFormed)
    {names below : List RawText} (hnames : ∀ name ∈ names, IsName name) {leaf : Node}
    (hat : node.at? below = some leaf) (hleaf : leaf.isDirectory = false)
    (hkeep : keep (.ofNames (names ++ below)) = true)
    (hopen : ∀ above rest, rest ≠ [] → above ++ rest = below →
      isTooLong (.ofNames (names ++ above)) = false) :
    (.ofNames (names ++ below), leaf) ∈ leavesAt keep (.ofNames names) node := by
  induction below generalizing names node with
  | nil =>
      obtain rfl := Option.some.inj hat
      rw [List.append_nil] at hkeep ⊢
      cases node with
      | file content => rw [leavesAt, if_pos hkeep]; exact List.mem_singleton_self _
      | link target => rw [leavesAt, if_pos hkeep]; exact List.mem_singleton_self _
      | directory entries => cases hleaf
  | cons name below ih =>
      have hwf := hnode.of_at? hat
      obtain ⟨hname, hbelow⟩ := List.forall_mem_cons.mp hwf.2
      obtain ⟨entries, child, rfl, hget, hchild⟩ := Node.at?_cons_eq_some_iff.mp hat
      have hmem := Table.mem_of_get? hget
      have hnames' := isName_append hnames (List.forall_mem_singleton.mpr hname)
      have hall := isName_append hnames hwf.2
      have happend : names ++ name :: below = names ++ [name] ++ below := by
        rw [List.append_assoc]
        rfl
      have hhere : isTooLong (.ofNames names) = false := by
        have h := hopen [] (name :: below) (List.cons_ne_nil name below) rfl
        rwa [List.append_nil] at h
      cases hnode with
      | directory hkeys hentries hnodes =>
          rw [leavesAt, if_pos (by rw [hclosed names _ hall hkeep, hhere]; rfl)]
          refine (mem_leavesOfEntries hnames hentries).mpr ⟨name, child, hmem, ?_⟩
          rw [happend] at hkeep ⊢
          refine ih (hnodes _ hmem) hnames' hchild hkeep fun above rest hrest heq => ?_
          rw [List.append_assoc]
          exact hopen (name :: above) rest hrest (congrArg (List.cons name) heq)

/-! ## From a path -/

variable {fs : FileSystem} {names : List RawText}

/-- A node that is found is well-formed, and its path not too long. -/
theorem wellFormed_of_get? (hfs : fs.WellFormed) {p : Path} {node : Node}
    (h : fs.get? p = some node) : node.WellFormed ∧ isTooLong p = false := by
  obtain ⟨found, -, hat⟩ := find_eq_ok_iff.mp (get?_eq_some_iff.mp h)
  refine ⟨(hfs.of_at? hat).1, ?_⟩
  rw [← Bool.not_eq_true]
  intro hlong
  rw [get?_of_isTooLong hlong] at h
  cases h

theorem start?_eq_some_iff {p : Path} {node : Node} :
    fs.start? p = some node ↔
      fs.get? p = some node ∧ (node.isDirectory = true ∨ fs.isLink p = false) := by
  rw [start?, Option.filter_eq_some_iff, Bool.or_eq_true, Bool.not_eq_true']

/-- A walk starts at the node that is found, unless it is a link. -/
theorem start?_of_find {p : Path} {found : Node} (hfind : fs.find p false = .ok found)
    (hlink : found.isLink = false) : fs.start? p = some found := by
  have hisLink : fs.isLink p = false := by
    rw [isLink, hfind]
    exact hlink
  refine start?_eq_some_iff.mpr ⟨?_, .inr hisLink⟩
  rw [get?_eq_some_iff]
  obtain hfollow | ⟨target, htarget⟩ := @find_follow fs p
  · rw [hfollow, hfind]
  · rw [hfind] at htarget
    cases htarget
    cases hlink

/-- The leaves of a path are those of the node where the walk starts, if nothing in a refused
directory is kept. -/
theorem leaves_eq {p : Path} (hfs : fs.WellFormed)
    (hrefused : ∀ entries, fs.get? p = some (.directory entries) → keep p = false →
      inNameOrder (leavesByName keep p entries) = []) :
    fs.leaves keep p = ((fs.start? p).map (leavesAt keep p)).getD [] := by
  unfold leaves
  cases hfind : fs.find p false with
  | error fault =>
      have hget : fs.get? p = none := by
        obtain hfollow | ⟨target, hlink⟩ := @find_follow fs p
        · rw [get?, hfollow, hfind]
          rfl
        · rw [hlink] at hfind
          cases hfind
      rw [start?, hget]
      rfl
  | ok found =>
      cases found with
      | file content =>
          rw [start?_of_find hfind rfl]
          rfl
      | directory entries =>
          rw [start?_of_find hfind rfl]
          rfl
      | link target =>
          have hlink : fs.isLink p = true := by
            rw [isLink, hfind]
            rfl
          dsimp only
          cases hget : fs.get? p with
          | none =>
              rw [start?, hget]
              rfl
          | some node =>
              cases node with
              | directory entries =>
                  rw [start?_eq_some_iff.mpr ⟨hget, .inl rfl⟩, Option.map_some, Option.getD_some,
                    leavesAt, (wellFormed_of_get? hfs hget).2]
                  cases hkeep : keep p with
                  | true => rfl
                  | false => exact hrefused entries hget hkeep
              | _ =>
                  rw [start?, hget, hlink]
                  rfl

/-- Below a path of names nothing in a refused directory is kept. -/
theorem leavesOfEntries_refused (hclosed : Closed keep) {entries : List (RawText × Node)}
    (hnode : (Node.directory entries).WellFormed) (hnames : ∀ name ∈ names, IsName name)
    (hkeep : keep (.ofNames names) = false) :
    inNameOrder (leavesByName keep (.ofNames names) entries) = [] := by
  cases hnode with
  | directory hkeys hentries hnodes =>
      refine List.eq_nil_iff_forall_not_mem.mpr fun leaf hleaf => ?_
      obtain ⟨name, child, hchild, hleaf⟩ := (mem_leavesOfEntries hnames hentries).mp hleaf
      have hnames' := isName_append hnames (List.forall_mem_singleton.mpr (hentries _ hchild))
      obtain ⟨hkept, below, hat, heq⟩ := at?_of_mem_leavesAt (hnodes _ hchild) hnames' hleaf
      have hall := isName_append hnames' ((hnodes _ hchild).of_at? hat).2
      rw [heq, List.append_assoc] at hkept
      rw [List.append_assoc] at hall
      rw [hclosed names _ hall hkept] at hkeep
      cases hkeep

theorem mem_leaves (hclosed : Closed keep) (hfs : fs.WellFormed)
    (hnames : ∀ name ∈ names, IsName name) {leaf : Path × Node} :
    leaf ∈ fs.leaves keep (.ofNames names) ↔
      ∃ node, fs.start? (.ofNames names) = some node ∧
        leaf ∈ leavesAt keep (.ofNames names) node := by
  rw [leaves_eq hfs fun entries hget =>
    leavesOfEntries_refused hclosed (wellFormed_of_get? hfs hget).1 hnames]
  cases fs.start? (.ofNames names) <;> simp

/-! ## Walks -/

/-- The names on the way to a file that is reached. -/
theorem reaches_ofNames_iff (hfs : fs.WellFormed) (hnames : ∀ name ∈ names, IsName name)
    {q : Path} :
    fs.Reaches (.ofNames names) q ↔
      ∃ node below content, fs.start? (.ofNames names) = some node ∧
        node.at? below = some (.file content) ∧ (∀ name ∈ below, IsEntryName name) ∧
        q = .ofNames (names ++ below) := by
  have hbelow : ∀ {node : Node} {below : List RawText} {content : ByteArray},
      fs.start? (.ofNames names) = some node → node.at? below = some (.file content) →
        ∀ name ∈ below, IsEntryName name := fun hstart hat =>
    ((wellFormed_of_get? hfs (start?_eq_some_iff.mp hstart).1).1.of_at? hat).2
  constructor
  · rintro ⟨node, below, content, hstart, hat, rfl⟩
    have hentries := hbelow hstart hat
    exact ⟨node, below, content, hstart, hat, hentries,
      Path.foldl_entry_ofNames hnames fun name hname => (hentries name hname).toIsName⟩
  · rintro ⟨node, below, content, hstart, hat, hentries, rfl⟩
    exact ⟨node, below, content, hstart, hat,
      (Path.foldl_entry_ofNames hnames fun name hname => (hentries name hname).toIsName).symm⟩

/-- Every directory on the way to a path can be opened. -/
def Opens (q : Path) : Prop :=
  ∀ above rest, (∀ name ∈ above ++ rest, IsName name) → rest ≠ [] →
    q = .ofNames (above ++ rest) → isTooLong (.ofNames above) = false

/-- The directories on the way to a path that is not too long can be opened. -/
theorem opens_of_isTooLong {q : Path} (h : isTooLong q = false) : Opens q := by
  rintro above rest - - rfl
  rw [← Bool.not_eq_true] at h ⊢
  exact fun habove => h (isTooLong_of_startsWith (Path.isPrefix_bytes_ofNames above rest) habove)

/-- A path has its directories open if the one it lies in is not too long. -/
theorem opens_concat {name : RawText} (h : ∀ other ∈ names ++ [name], IsName other)
    (hshort : isTooLong (.ofNames names) = false) : Opens (.ofNames (names ++ [name])) := by
  intro above rest hall hrest heq
  have hnames := Path.ofNames_injective h hall heq
  obtain rfl | ⟨front, last, rfl⟩ := List.eq_nil_or_concat rest
  · exact absurd rfl hrest
  · rw [List.concat_eq_append, ← List.append_assoc] at hnames
    obtain ⟨rfl, -⟩ := List.append_inj' hnames rfl
    rw [← Bool.not_eq_true] at hshort ⊢
    exact fun habove =>
      hshort (isTooLong_of_startsWith (Path.isPrefix_bytes_ofNames above front) habove)

theorem reaches_of_mem_walk (hclosed : Closed keep) (hfs : fs.WellFormed)
    (hnames : ∀ name ∈ names, IsName name) {q : Path}
    (h : q ∈ fs.walk keep (.ofNames names)) : fs.Reaches (.ofNames names) q ∧ keep q = true := by
  obtain ⟨⟨_, leaf⟩, hmem, rfl⟩ := List.mem_map.mp h
  obtain ⟨hleaf, hfile⟩ := List.mem_filter.mp hmem
  obtain ⟨node, hstart, hleaf⟩ := (mem_leaves hclosed hfs hnames).mp hleaf
  have hnode := (wellFormed_of_get? hfs (start?_eq_some_iff.mp hstart).1).1
  obtain ⟨hkeep, below, hat, rfl⟩ := at?_of_mem_leavesAt hnode hnames hleaf
  cases leaf with
  | file content =>
      exact ⟨(reaches_ofNames_iff hfs hnames).mpr
        ⟨node, below, content, hstart, hat, (hnode.of_at? hat).2, rfl⟩, hkeep⟩
  | directory => cases hfile
  | link => cases hfile

theorem mem_walk_of_reaches (hclosed : Closed keep) (hfs : fs.WellFormed)
    (hnames : ∀ name ∈ names, IsName name) {q : Path} (h : fs.Reaches (.ofNames names) q)
    (hkeep : keep q = true) (hopens : Opens q) : q ∈ fs.walk keep (.ofNames names) := by
  obtain ⟨node, below, content, hstart, hat, hentries, rfl⟩ :=
    (reaches_ofNames_iff hfs hnames).mp h
  have hnode := (wellFormed_of_get? hfs (start?_eq_some_iff.mp hstart).1).1
  have hall := isName_append hnames hentries
  have hleaf : (.ofNames (names ++ below), .file content) ∈ fs.leaves keep (.ofNames names) := by
    refine (mem_leaves hclosed hfs hnames).mpr ⟨node, hstart, ?_⟩
    refine mem_leavesAt hclosed hnode hnames hat rfl hkeep fun above rest hrest heq => ?_
    rw [← heq, ← List.append_assoc] at hall hopens
    exact hopens (names ++ above) rest hall hrest rfl
  exact List.mem_map.mpr ⟨_, List.mem_filter.mpr ⟨hleaf, rfl⟩, rfl⟩

/-- A file that is reached is found, unless its path is too long. -/
theorem get?_of_reaches (hfs : fs.WellFormed) (hnames : ∀ name ∈ names, IsName name) {q : Path}
    (h : fs.Reaches (.ofNames names) q) (hshort : isTooLong q = false) :
    ∃ content, fs.get? q = some (.file content) := by
  obtain ⟨node, below, content, hstart, hat, hentries, rfl⟩ :=
    (reaches_ofNames_iff hfs hnames).mp h
  exact ⟨content, get?_ofNames_append hnames hentries (start?_eq_some_iff.mp hstart).1 hat rfl
    hshort⟩

end FileSystem

end BundleConfig
