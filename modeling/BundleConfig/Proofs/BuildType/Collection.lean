import BundleConfig.Proofs.BuildType.Files
import BundleConfig.Proofs.FileSystem.Order
import Mathlib.Data.List.Forall2
import Mathlib.Data.String.Basic

/-!
# The collected files

`BuildTypeFiles.collect_inOrder` says which files each build type gets, in which order, and in
which order the build types come.

*The files.*  A build type gets the files of the walk that it accepts.  A walk neither goes into
an ignored place nor visits a file that is itself one, and it cannot open a directory whose path is
too long (`BuildTypeFiles.Visited`).  Each file comes once, the main files first, and otherwise in
the order of the walk (`BuildTypeFiles.Collected`).

*The build types.*  They are sorted by what they put out and by their extension
(`BuildTypeFiles.rank`).  The sort is stable: those of one rank stay in the order in which they
were declared (`BuildTypeFiles.filter_mergeSort`).
-/

namespace BundleConfig

/-- Every item and its result are related as the step relates them. -/
theorem forall₂_of_mapM {ε α β : Type} {f : α → Except ε β} {xs : List α} {ys : List β}
    (h : xs.mapM f = .ok ys) : List.Forall₂ (fun x y => f x = .ok y) xs ys := by
  induction xs generalizing ys with
  | nil =>
      cases h
      exact .nil
  | cons x xs ih =>
      rw [List.mapM_cons] at h
      obtain ⟨y, hy, h⟩ := bind_eq_ok.mp h
      obtain ⟨rest, hrest, h⟩ := bind_eq_ok.mp h
      cases h
      exact .cons hy (ih hrest)

namespace BuildTypeFiles

variable {fs : FileSystem} {types : Table BuildType} {base : Path} {ignored : List Path}
  {mainFiles : List String}

/-! ## The files of a walk -/

/-- A walk from the base visits the regular file that some names lead to. -/
structure Visited (fs : FileSystem) (ignored : List Path) (base : Path) (below : List RawText) :
    Prop where
  /-- They lead to a regular file, without following links below the base. -/
  file : fs.FileBelow base below
  /-- Neither the file nor a directory on the way to it is in an ignored place. -/
  outside : ∀ above, above <+: below → fs.isIn (base.descend above) ignored = false
  /-- No directory on the way has a path that is too long. -/
  opened : ∀ above, above <+: below → above ≠ below →
    FileSystem.isTooLong (base.descend above) = false

/-- One file is visited before another one: where the names that lead to them part first, its
name is the smaller one. -/
def WalkedBefore (fs : FileSystem) (base q q' : Path) : Prop :=
  ∃ below below', fs.FileBelow base below ∧ fs.FileBelow base below' ∧
    q = base.descend below ∧ q' = base.descend below' ∧ below < below'

/-- The files of a walk: those it visits, each once, in the order of the walk. -/
structure Walked (fs : FileSystem) (ignored : List Path) (base : Path) (files : List Path) :
    Prop where
  mem_iff : ∀ q, q ∈ files ↔ ∃ below, Visited fs ignored base below ∧ q = base.descend below
  nodup : files.Nodup
  ordered : files.Pairwise (WalkedBefore fs base)

theorem visited_iff {below : List RawText} :
    Visited fs ignored base below ↔
      fs.FileBelow base below ∧ FileSystem.Passes (fun p => !fs.isIn p ignored) base below := by
  simp only [FileSystem.passes_iff, Bool.not_eq_true']
  constructor
  · rintro ⟨hfile, houtside, hopened⟩
    exact ⟨hfile, houtside, hopened⟩
  · rintro ⟨hfile, houtside, hopened⟩
    exact ⟨hfile, houtside, hopened⟩

/-- The names that lead to a file can be names on disk. -/
theorem isName_of_fileBelow (hfs : fs.WellFormed) {below : List RawText}
    (h : fs.FileBelow base below) : ∀ name ∈ below, IsName name := by
  obtain ⟨node, content, hstart, hat⟩ := h
  have hget := (FileSystem.start?_eq_some_iff.mp hstart).1
  have hnode := (FileSystem.wellFormed_of_get? hfs hget).1
  exact fun name hname => ((hnode.of_at? hat).2 name hname).toIsName

theorem walked_walk (hfs : fs.WellFormed) (hcwd : fs.workingDirectory.isAbsolute = true)
    (ignored : List Path) (base : Path) :
    Walked fs ignored base (fs.walk (fun p => !fs.isIn p ignored) base) := by
  obtain ⟨names, heq, hordered, hmem⟩ :=
    FileSystem.exists_walk_eq (FileSystem.inherited_isIn hcwd ignored) hfs base
  simp only [← visited_iff] at hmem
  rw [heq]
  constructor
  case mem_iff =>
    intro q
    rw [List.mem_map]
    constructor
    · rintro ⟨below, hbelow, rfl⟩
      exact ⟨below, (hmem below).mp hbelow, rfl⟩
    · rintro ⟨below, hvisited, rfl⟩
      exact ⟨below, (hmem below).mpr hvisited, rfl⟩
  case nodup =>
    have hnames : names.Nodup := hordered.imp fun hlt => ne_of_lt hlt
    refine hnames.map_on fun below hbelow below' hbelow' heq => ?_
    exact Path.descend_injective hcwd (isName_of_fileBelow hfs ((hmem below).mp hbelow).file)
      (isName_of_fileBelow hfs ((hmem below').mp hbelow').file) heq
  case ordered =>
    rw [List.pairwise_map]
    refine hordered.imp_of_mem fun {below below'} hbelow hbelow' hlt => ?_
    exact ⟨below, below', ((hmem below).mp hbelow).file, ((hmem below').mp hbelow').file, rfl, rfl,
      hlt⟩

/-! ## The files of one build type -/

/-- The files of a build type: those a walk visits that it accepts, each once, the main files
first and otherwise in the order of the walk. -/
structure Collected (fs : FileSystem) (ignored : List Path) (mainFiles : List String) (base : Path)
    (t : BuildTypeFiles) : Prop where
  mem_iff : ∀ q, q ∈ t.files ↔ t.buildType.accepts q = .ok true ∧
    ∃ below, Visited fs ignored base below ∧ q = base.descend below
  nodup : t.files.Nodup
  ordered : t.files.Pairwise fun q q' =>
    (isMain mainFiles q = true ∧ isMain mainFiles q' = false) ∨
      (isMain mainFiles q = isMain mainFiles q' ∧ WalkedBefore fs base q q')

theorem nodup_mainFirst {files : List Path} (h : files.Nodup) :
    (mainFirst mainFiles files).Nodup := by
  refine List.nodup_append.mpr ⟨h.filter _, h.filter _, fun q hq q' hq' heq => ?_⟩
  subst heq
  have hmain := (List.mem_filter.mp hq).2
  have hother := (List.mem_filter.mp hq').2
  rw [hmain] at hother
  cases hother

/-- Putting main files first leaves the order of the main files, and that of the others. -/
theorem pairwise_mainFirst {files : List Path} {R : Path → Path → Prop} (h : files.Pairwise R) :
    (mainFirst mainFiles files).Pairwise fun q q' =>
      (isMain mainFiles q = true ∧ isMain mainFiles q' = false) ∨
        (isMain mainFiles q = isMain mainFiles q' ∧ R q q') := by
  have hmain : ∀ q ∈ files.filter (isMain mainFiles), isMain mainFiles q = true :=
    fun q hq => (List.mem_filter.mp hq).2
  have hother : ∀ q ∈ files.filter fun p => !isMain mainFiles p, isMain mainFiles q = false := by
    intro q hq
    have hnot := (List.mem_filter.mp hq).2
    rwa [Bool.not_eq_true'] at hnot
  rw [mainFirst, List.pairwise_append]
  refine ⟨?_, ?_, fun q hq q' hq' => .inl ⟨hmain q hq, hother q' hq'⟩⟩
  · refine (h.filter _).imp_of_mem fun {q q'} hq hq' hR => .inr ⟨?_, hR⟩
    rw [hmain q hq, hmain q' hq']
  · refine (h.filter _).imp_of_mem fun {q q'} hq hq' hR => .inr ⟨?_, hR⟩
    rw [hother q hq, hother q' hq']

/-- A build type under the name it has in its table, if it does not have one itself. -/
def named (name : String) (t : BuildType) : BuildType :=
  if t.name.isEmpty then { t with name := name } else t

theorem accepts_named (name : String) (t : BuildType) (p : Path) :
    (named name t).accepts p = t.accepts p := by
  rw [named]
  split <;> rfl

theorem collected_ofFiles {files : List Path} (hwalked : Walked fs ignored base files)
    {name : String} {t : BuildType} {found : BuildTypeFiles}
    (h : ofFiles mainFiles files name t = .ok found) :
    found.buildType = named name t ∧ Collected fs ignored mainFiles base found := by
  obtain ⟨accepted, haccepted, h⟩ := bind_eq_ok.mp h
  cases h
  refine ⟨rfl, ?_⟩
  obtain ⟨-, heq⟩ := filterM_eq_ok_iff.mp haccepted
  constructor
  case mem_iff =>
    intro q
    show q ∈ mainFirst mainFiles accepted ↔ (named name t).accepts q = .ok true ∧ _
    rw [mem_mainFirst, heq, List.mem_filter, hwalked.mem_iff, accepts_named, and_comm]
    refine and_congr_left fun _ => ?_
    cases t.accepts q with
    | error fault => simp [Except.toOption]
    | ok accepted => simp [Except.toOption]
  case nodup =>
    refine nodup_mainFirst ?_
    rw [heq]
    exact hwalked.nodup.filter _
  case ordered =>
    refine pairwise_mainFirst ?_
    rw [heq]
    exact hwalked.ordered.filter _

/-! ## The order of build types -/

/-- What build types are sorted by: whether they put out scripts, and their extension. -/
def rank (t : BuildTypeFiles) : Bool × String := (t.isScript, t.buildType.extension)

theorem precedes_iff {s t : BuildTypeFiles} :
    precedes s t = true ↔ (s.isScript = true ∧ t.isScript = false) ∨
      (s.isScript = t.isScript ∧ s.buildType.extension ≤ t.buildType.extension) := by
  rw [precedes]
  cases s.isScript <;> cases t.isScript <;> simp

theorem precedes_trans (r s t : BuildTypeFiles) (hrs : precedes r s = true)
    (hst : precedes s t = true) : precedes r t = true := by
  rw [precedes_iff] at hrs hst ⊢
  obtain ⟨hr, hs⟩ | ⟨hrs, hle⟩ := hrs
  · obtain ⟨hs', -⟩ | ⟨hst, -⟩ := hst
    · rw [hs] at hs'
      cases hs'
    · exact .inl ⟨hr, hst ▸ hs⟩
  · obtain ⟨hs, ht⟩ | ⟨hst, hle'⟩ := hst
    · exact .inl ⟨hrs.trans hs, ht⟩
    · exact .inr ⟨hrs.trans hst, le_trans hle hle'⟩

theorem precedes_total (s t : BuildTypeFiles) : (precedes s t || precedes t s) = true := by
  rw [Bool.or_eq_true, precedes_iff, precedes_iff]
  cases s.isScript <;> cases t.isScript <;> simp [le_total]

/-- Sorting leaves the order of those with one rank. -/
theorem filter_mergeSort (declared : List BuildTypeFiles) (key : Bool × String) :
    (declared.mergeSort precedes).filter (fun t => rank t = key) =
      declared.filter fun t => rank t = key := by
  have hpairwise : (declared.filter fun t => rank t = key).Pairwise (precedes · ·) := by
    refine List.pairwise_of_forall_mem_list fun s hs t ht => ?_
    have hs : rank s = key := by simpa using (List.mem_filter.mp hs).2
    have ht : rank t = key := by simpa using (List.mem_filter.mp ht).2
    obtain ⟨hscript, hextension⟩ := Prod.mk.inj (hs.trans ht.symm)
    exact precedes_iff.mpr (.inr ⟨hscript, hextension.le⟩)
  have hsublist : (declared.filter fun t => rank t = key).Sublist
      (declared.mergeSort precedes) :=
    List.sublist_mergeSort precedes_trans precedes_total hpairwise List.filter_sublist
  have hfilter := hsublist.filter fun t => rank t = key
  rw [List.filter_filter] at hfilter
  simp only [Bool.and_self] at hfilter
  have hlength := ((List.mergeSort_perm declared precedes).filter fun t => rank t = key).length_eq
  exact (hfilter.eq_of_length hlength.symm).symm

/-- The build types that were declared, sorted: those that put out scripts first, then in the
order of their extensions, and those of one rank as they were declared. -/
structure Sorted (declared result : List BuildTypeFiles) : Prop where
  perm : result.Perm declared
  ordered : result.Pairwise fun s t => (s.isScript = true ∧ t.isScript = false) ∨
    (s.isScript = t.isScript ∧ s.buildType.extension ≤ t.buildType.extension)
  stable : ∀ key, result.filter (fun t => rank t = key) = declared.filter fun t => rank t = key

theorem sorted_mergeSort (declared : List BuildTypeFiles) :
    Sorted declared (declared.mergeSort precedes) where
  perm := List.mergeSort_perm declared precedes
  ordered :=
    (List.pairwise_mergeSort precedes_trans precedes_total declared).imp fun h => precedes_iff.mp h
  stable := filter_mergeSort declared

/-- The entries of a directory with a main file, another script, a style sheet and a script that
lies in a directory of its own. -/
def assetEntries : List (RawText × Node) :=
  [("main.js", .file .empty), ("b.css", .file .empty), ("a.js", .file .empty),
    ("skip", .directory [("c.js", .file .empty)])]

/-- The directory of `assetEntries` where the program runs. -/
def assets : FileSystem := ⟨[("p", .directory assetEntries)], ⟨"/"⟩⟩

/-- A build type for style sheets and one for scripts. -/
def assetTypes : Table BuildType :=
  [("style", { extension := "css", outputExtension := "css" }),
    ("script", { extension := "js", outputExtension := "js" })]

/-- The files of `assets` by build type. -/
def assetFiles : List BuildTypeFiles :=
  [⟨{ name := "script", extension := "js", outputExtension := "js" }, [⟨"p/main.js"⟩, ⟨"p/a.js"⟩]⟩,
    ⟨{ name := "style", extension := "css", outputExtension := "css" }, [⟨"p/b.css"⟩]⟩]

theorem wellFormed_assets : assets.WellFormed := by
  have hskip : (Node.directory [("c.js", .file .empty)]).WellFormed :=
    .directory (by decide) (by decide) (List.forall_mem_singleton.mpr (.file _))
  have hassets : (Node.directory assetEntries).WellFormed := by
    refine .directory (by decide) (by decide) ?_
    simp only [assetEntries, List.forall_mem_cons]
    exact ⟨.file _, .file _, .file _, hskip, List.forall_mem_nil _⟩
  exact .directory (by decide) (by decide) (List.forall_mem_singleton.mpr hassets)

theorem walk_assets : assets.walk (fun p => !assets.isIn p [⟨"/p/skip"⟩]) ⟨"p"⟩ =
    [⟨"p/a.js"⟩, ⟨"p/b.css"⟩, ⟨"p/main.js"⟩] := by
  have hfind : assets.find ⟨"p"⟩ false = .ok (.directory assetEntries) := by rfl
  have hkept : ∀ name ∈ (["main.js", "b.css", "a.js"] : List RawText),
      assets.isIn ((⟨"p"⟩ : Path).entry name) [⟨"/p/skip"⟩] = false := by
    decide +kernel
  have hbase : assets.isIn ⟨"p"⟩ [⟨"/p/skip"⟩] = false := by decide
  have hskip : assets.isIn ((⟨"p"⟩ : Path).entry "skip") [⟨"/p/skip"⟩] = true := by decide
  have hshort : FileSystem.isTooLong ⟨"p"⟩ = false := by decide
  have horder : (RawText.ofText "a.js" ≤ "skip" ∧ RawText.ofText "b.css" ≤ "skip" ∧
      RawText.ofText "main.js" ≤ "skip") ∧ ¬ RawText.ofText "main.js" ≤ "b.css" ∧
      ¬ RawText.ofText "b.css" ≤ "a.js" := by
    decide
  have hleaves : FileSystem.leavesAt (fun p => !assets.isIn p [⟨"/p/skip"⟩]) ⟨"p"⟩
      (.directory assetEntries) = (["a.js", "b.css", "main.js"] : List RawText).map fun name =>
        ((⟨"p"⟩ : Path).entry name, .file .empty) := by
    simp [assetEntries, FileSystem.leavesAt, FileSystem.leavesByName, FileSystem.inNameOrder,
      List.mergeSort, hkept, hbase, hskip, hshort, horder]
  rw [FileSystem.walk, FileSystem.leaves, hfind]
  dsimp only
  rw [hleaves]
  decide +kernel

/-- A build type for scripts. -/
def script : BuildType := { name := "script", extension := "js" }

/-- The name of a directory, of 254 bytes. -/
def longName : RawText := ⟨List.replicate 254 (RawText.asciiByte 'd')⟩

/-- The entries of a directory with a script so many directories below it. -/
def nestedEntries : Nat → List (RawText × Node)
  | 0 => [("a.js", .file .empty)]
  | n + 1 => [(longName, .directory (nestedEntries n))]

/-- A script so many directories below the root. -/
def nested (n : Nat) : FileSystem := ⟨nestedEntries n, ⟨"/"⟩⟩

/-- The names that lead to the script. -/
def nestedNames (n : Nat) : List RawText := List.replicate n longName ++ [RawText.ofText "a.js"]

theorem isEntryName_of_mem_nestedNames {n : Nat} {name : RawText} (h : name ∈ nestedNames n) :
    IsEntryName name := by
  simp only [nestedNames, List.mem_append, List.mem_replicate, List.mem_singleton] at h
  obtain ⟨-, rfl⟩ | rfl := h
  · exact FileSystem.isEntryName_replicate (by decide) (by decide) (by decide) (by decide)
  · decide

theorem nodup_nestedEntries (n : Nat) : (Table.keys (nestedEntries n)).Nodup := by
  cases n <;> exact List.nodup_singleton _

theorem wellFormed_nested (n : Nat) : (nested n).WellFormed := by
  show (Node.directory (nestedEntries n)).WellFormed
  induction n with
  | zero =>
      exact .directory (nodup_nestedEntries 0) (List.forall_mem_singleton.mpr (by decide))
        (List.forall_mem_singleton.mpr (.file _))
  | succ n ih =>
      have hname : longName ∈ nestedNames 1 := List.mem_cons_self
      exact .directory (nodup_nestedEntries (n + 1))
        (List.forall_mem_singleton.mpr (isEntryName_of_mem_nestedNames hname))
        (List.forall_mem_singleton.mpr ih)

theorem at?_nestedEntries_iff {n : Nat} {below : List RawText} {content : ByteArray} :
    (Node.directory (nestedEntries n)).at? below = some (.file content) ↔
      below = nestedNames n ∧ content = .empty := by
  induction n generalizing below with
  | zero =>
      rw [FileSystem.at?_directory_iff (nodup_nestedEntries _) rfl]
      constructor
      · rintro ⟨name, rest, child, rfl, hmem, hat⟩
        cases List.mem_singleton.mp hmem
        cases rest with
        | nil =>
            cases hat
            exact ⟨rfl, rfl⟩
        | cons => cases hat
      · rintro ⟨rfl, rfl⟩
        exact ⟨"a.js", [], _, rfl, List.mem_singleton_self _, rfl⟩
  | succ n ih =>
      rw [FileSystem.at?_directory_iff (nodup_nestedEntries _) rfl]
      constructor
      · rintro ⟨name, rest, child, rfl, hmem, hat⟩
        obtain ⟨rfl, rfl⟩ := Prod.mk.inj (List.mem_singleton.mp hmem)
        obtain ⟨rfl, rfl⟩ := ih.mp hat
        exact ⟨rfl, rfl⟩
      · rintro ⟨rfl, rfl⟩
        exact ⟨longName, nestedNames n, _, rfl, List.mem_singleton_self _, ih.mpr ⟨rfl, rfl⟩⟩

theorem start?_nested (n : Nat) :
    (nested n).start? (.ofNames []) = some (.directory (nestedEntries n)) := by
  refine FileSystem.start?_of_find (FileSystem.find_eq_ok_iff.mpr ⟨[], ?_, rfl⟩) rfl
  rw [FileSystem.locate_ofNames (List.forall_mem_nil _), if_neg (by decide), if_neg (by decide)]
  rfl

theorem fileBelow_nested_iff {n : Nat} {below : List RawText} :
    (nested n).FileBelow (.ofNames []) below ↔ below = nestedNames n := by
  constructor
  · rintro ⟨node, content, hstart, hat⟩
    cases (start?_nested n).symm.trans hstart
    exact (at?_nestedEntries_iff.mp hat).1
  · rintro rfl
    exact ⟨_, _, start?_nested n, at?_nestedEntries_iff.mpr ⟨rfl, rfl⟩⟩

theorem descend_nestedNames (n : Nat) :
    (Path.ofNames []).descend (nestedNames n) = .ofNames (nestedNames n) :=
  Path.foldl_entry_ofNames (List.forall_mem_nil _)
    fun _ hname => (isEntryName_of_mem_nestedNames hname).toIsName

theorem accepts_nestedNames (n : Nat) :
    script.accepts ((Path.ofNames []).descend (nestedNames n)) = .ok true := by
  have hfile : (Path.ofNames (nestedNames n)).fileName = some "a.js" :=
    Path.fileName_ofNames_concat fun _ hname => (isEntryName_of_mem_nestedNames hname).toIsName
  rw [descend_nestedNames, BuildType.accepts, BuildType.sourceExtension, Path.extension, hfile]
  rfl

/-- Where the script is not visited, nothing is collected. -/
theorem collect_nested {n : Nat} (h : ¬ Visited (nested n) ignored (.ofNames []) (nestedNames n)) :
    collect (nested n) [("script", script)] (.ofNames []) ignored [] = .ok [⟨script, []⟩] := by
  have hwalk : (nested n).walk (fun p => !(nested n).isIn p ignored) (.ofNames []) = [] := by
    refine List.eq_nil_iff_forall_not_mem.mpr fun q hq => ?_
    have hcwd : (nested n).workingDirectory.isAbsolute = true := Path.isAbsolute_ofNames []
    have hwalked := walked_walk (wellFormed_nested n) hcwd ignored (.ofNames [])
    obtain ⟨below, hvisited, -⟩ := (hwalked.mem_iff q).mp hq
    rw [fileBelow_nested_iff.mp hvisited.file] at hvisited
    exact h hvisited
  rw [collect, hwalk]
  refine bind_eq_ok.mpr ⟨[⟨script, []⟩], rfl, ?_⟩
  rw [List.mergeSort_singleton]
  rfl

theorem isTooLong_long :
    FileSystem.isTooLong ((Path.ofNames []).descend (List.replicate 17 longName)) = true := by
  have hdescend : (Path.ofNames []).descend (List.replicate 17 longName) =
      .ofNames (List.replicate 16 longName ++ [longName]) :=
    Path.foldl_entry_ofNames (List.forall_mem_nil _) fun name hname =>
      (isEntryName_of_mem_nestedNames (n := 17) (List.mem_append_left _ hname)).toIsName
  have hlength : longName.bytes.length = 254 := List.length_replicate
  have hlong : 4096 ≤ (Path.ofNames (List.replicate 16 longName ++ [longName])).bytes.length := by
    rw [FileSystem.length_ofNames_replicate _ _ (List.cons_ne_nil longName []), Path.bytes_ofNames,
      List.map_singleton, List.length_cons, Text.join, hlength]
    omega
  rw [hdescend]
  exact decide_eq_true hlong

end BuildTypeFiles

end BundleConfig
