import BundleConfig.Proofs.BuildType.Files
import BundleConfig.Proofs.Entry.Modules
import BundleConfig.Proofs.Entry.Specifiers
import BundleConfig.Proofs.FileSystem.Walk

/-!
# What discovery finds

Discovery walks the base and says every file it keeps as a specifier, and resolution
looks the specifiers up again.  The two agree: every discoverable file is the file of
exactly one module, and nothing else is.

*No repetition.*  A file may be collected for several build types.  It has one
specifier and one chunk, so its repetitions fall together in one list, where they are
dropped.

*Long paths.*  Discovery goes down directory by directory, but a look-up is given the
whole path of a file.  A path of 4096 bytes or more cannot be looked up, though all
directories on the way can be opened (`FileSystem.Opens`).  Such a file is discovered,
and its specifier is unresolvable (`exists_unresolvable`).

*Names that are no texts.*  A specifier is a rendering, so it leads back to a file only if
the path that is rendered is a text: the path from the context, or the whole path of a file
elsewhere (`seenFrom`).
-/

namespace BundleConfig

namespace EntryFinder

variable {f : EntryFinder} {fs : FileSystem} {s : EntrySettings} {given : GivenEntries}
  {chunks : Chunks}

/-! ## Discovered specifiers -/

/-- The chunk of a discovered file. -/
def chunkOf (base : Path) (own : Option Pattern.Expression) (p : Path) : String :=
  (own.bind (ownChunk? base · p)).getD Chunks.defaultName

/-- What discovery finds: the regular files that are reached from the base outside of
ignored directories, that a build type accepts and no glob does. -/
structure Discoverable (f : EntryFinder) (fs : FileSystem) (globs : List Glob.Tokens)
    (q : Path) : Prop where
  reaches : fs.Reaches f.resolver.base q
  outside : ∀ directory ∈ f.resolver.ignored,
    ¬ (fs.absolute directory).components <+: (fs.absolute q).components
  claimed : ∃ entry ∈ f.buildTypes, entry.2.accepts q = .ok true
  unmatched : ∀ glob ∈ globs, ∀ text, (seenFrom f.resolver.base q).spelling.text? = some text →
    Glob.accepts glob text = false

theorem mem_addTo {name specifier name' specifier' : String} :
    specifier' ∈ ((addTo chunks name specifier).get? name').getD [] ↔
      specifier' ∈ (chunks.get? name').getD [] ∨ name' = name ∧ specifier' = specifier := by
  rw [addTo]
  by_cases hname : name' = name
  · rw [hname, Table.get?_insert_self, Option.getD_some, List.mem_append, List.mem_singleton,
      and_iff_right rfl]
  · rw [Table.get?_insert_of_ne _ _ hname, or_iff_left fun h => hname h.1]

theorem mem_foldl_addTo {nameOf specifierOf : Path → String} {files : List Path}
    {name specifier : String} :
    specifier ∈ ((files.foldl (fun chunks p => addTo chunks (nameOf p) (specifierOf p))
        chunks).get? name).getD [] ↔
      specifier ∈ (chunks.get? name).getD [] ∨
        ∃ p ∈ files, nameOf p = name ∧ specifierOf p = specifier := by
  induction files generalizing chunks with
  | nil => simp
  | cons p files ih =>
      rw [List.foldl_cons, ih, mem_addTo, List.exists_mem_cons_iff, or_assoc, eq_comm,
        eq_comm (a := specifier)]

/-- The chunks of discovery list the specifier of each file of the walk that a build type
accepts and no glob does, in the chunk of the file. -/
theorem exists_discover (htypes : f.ValidTypes) {globs : List Glob.Tokens}
    (hglobs : globsOf s.ignoredGlobs = .ok globs) {own : Option Pattern.Expression}
    (hown : ownChunkExpression s = .ok own) :
    ∃ chunks, f.discover fs s = .ok chunks ∧ ∀ name specifier,
      specifier ∈ (chunks.get? name).getD [] ↔ ∃ q ∈ fs.walk (f.keeps fs) f.resolver.base,
        (∃ entry ∈ f.buildTypes, entry.2.accepts q = .ok true) ∧
        (∀ glob ∈ globs, ∀ text, (seenFrom f.resolver.base q).spelling.text? = some text →
          Glob.accepts glob text = false) ∧
        chunkOf f.resolver.base own q = name ∧ specifierOf f.resolver.context q = specifier := by
  obtain ⟨found, hfound, hmem⟩ := @BuildTypeFiles.exists_collect fs _ htypes f.resolver.base
    f.ignored f.resolver.mainFiles
  have hdiscover : f.discover fs s = .ok (((found.flatMap (·.files)).filter fun p =>
      !(seenFrom f.resolver.base p).spelling.text?.any fun text =>
        globs.any (Glob.accepts · text)).foldl
        (fun chunks p => addTo chunks (chunkOf f.resolver.base own p)
          (specifierOf f.resolver.context p)) []) := by
    rw [discover, hfound, hglobs, hown]
    rfl
  refine ⟨_, hdiscover, fun name specifier => ?_⟩
  rw [mem_foldl_addTo, Table.get?_nil, Option.getD_none, or_iff_right List.not_mem_nil]
  refine exists_congr fun q => ?_
  rw [List.mem_filter, hmem, Bool.not_eq_true', and_assoc, and_assoc]
  refine and_congr_right fun _ => and_congr_right fun _ => and_congr_left fun _ => ?_
  cases (seenFrom f.resolver.base q).spelling.text? <;> simp

theorem dropExcluded_of_nil (h : s.excluded = []) (chunks : Chunks) :
    f.dropExcluded fs s chunks = chunks := by
  rw [dropExcluded, h]
  simp [Table.mapValues]

theorem expandAll_eq_self (h : ∀ chunk ∈ chunks, ∀ specifier ∈ chunk.2,
    f.expand fs specifier = [specifier]) : f.expandAll fs chunks = chunks := by
  refine (List.map_congr_left fun chunk hchunk => ?_).trans (List.map_id chunks)
  refine Prod.ext rfl ?_
  exact (List.flatMap_congr (h chunk hchunk)).trans (List.flatMap_singleton' chunk.2)

/-! ## Files below the base -/

/-- What is below an ignored path is ignored. -/
theorem closed_keeps : FileSystem.Closed (f.keeps fs) := by
  intro names more hnames hkeep
  have htop : ∀ name ∈ names, IsName name := fun name hname =>
    hnames name (List.mem_append_left more hname)
  rw [keeps_iff] at hkeep ⊢
  intro directory hdirectory hbelow
  refine hkeep directory hdirectory (hbelow.trans ?_)
  rw [FileSystem.absolute, FileSystem.absolute, Path.absolute_ofNames hnames,
    Path.absolute_ofNames htop, Path.components_ofNames hnames, Path.components_ofNames htop,
    List.map_append]
  exact List.prefix_append (Component.root :: names.map .normal) _

variable {globs : List Glob.Tokens} {own : Option Pattern.Expression} {q : Path}

theorem Plain.exists_base (hf : f.Plain) :
    ∃ names, (∀ name ∈ names, IsName name) ∧ f.resolver.base = .ofNames names :=
  Path.exists_eq_ofNames hf.base_isAbsolute hf.base_clean

theorem Discoverable.keeps (h : f.Discoverable fs globs q) (hf : f.Plain) :
    f.keeps fs q = true :=
  keeps_iff.mpr (hf.ignored ▸ h.outside)

theorem discoverable_of_mem_walk (hfs : fs.WellFormed) (hf : f.Plain)
    (h : q ∈ fs.walk (f.keeps fs) f.resolver.base)
    (hclaimed : ∃ entry ∈ f.buildTypes, entry.2.accepts q = .ok true)
    (hunmatched : ∀ glob ∈ globs, ∀ text, (seenFrom f.resolver.base q).spelling.text? = some text →
      Glob.accepts glob text = false) :
    f.Discoverable fs globs q := by
  obtain ⟨names, hnames, hbase⟩ := hf.exists_base
  rw [hbase] at h
  obtain ⟨hreaches, hkeep⟩ := FileSystem.reaches_of_mem_walk closed_keeps hfs hnames h
  exact ⟨hbase ▸ hreaches, hf.ignored ▸ keeps_iff.mp hkeep, hclaimed, hunmatched⟩

theorem Discoverable.mem_walk (h : f.Discoverable fs globs q) (hfs : fs.WellFormed)
    (hf : f.Plain) (hopens : FileSystem.Opens q) :
    q ∈ fs.walk (f.keeps fs) f.resolver.base := by
  obtain ⟨names, hnames, hbase⟩ := hf.exists_base
  have hreaches := h.reaches
  rw [hbase] at hreaches ⊢
  exact FileSystem.mem_walk_of_reaches closed_keeps hfs hnames hreaches (h.keeps hf) hopens

theorem isFilePath_of_reaches (hfs : fs.WellFormed) (hf : f.Plain)
    (h : fs.Reaches f.resolver.base q) (hplain : q.IsPlain)
    (htext : (seenFrom f.resolver.context q).IsText) : IsFilePath f.resolver.context q := by
  obtain ⟨names, hnames, hbase⟩ := hf.exists_base
  rw [hbase] at h
  obtain ⟨-, below, -, -, -, hbelow, rfl⟩ := (FileSystem.reaches_ofNames_iff hfs hnames).mp h
  exact ⟨hplain, ⟨names ++ below, isName_append hnames hbelow, rfl⟩, htext⟩

/-- A file that is reached is found, unless its path is too long.  It is no directory
then either. -/
theorem isFile_or_isTooLong (hfs : fs.WellFormed) (hf : f.Plain)
    (h : fs.Reaches f.resolver.base q) :
    fs.isDirectory q = false ∧ (FileSystem.isTooLong q = false → fs.isFile q = true) := by
  obtain ⟨names, hnames, hbase⟩ := hf.exists_base
  rw [hbase] at h
  cases hlong : FileSystem.isTooLong q with
  | true =>
      rw [FileSystem.isDirectory, FileSystem.get?_of_isTooLong hlong]
      exact ⟨rfl, fun hshort => absurd hshort.symm Bool.false_ne_true⟩
  | false =>
      obtain ⟨content, hget⟩ := FileSystem.get?_of_reaches hfs hnames h hlong
      have hfile : fs.isFile q = true := by
        rw [FileSystem.isFile, hget]
        rfl
      exact ⟨FileSystem.isDirectory_of_isFile hfile, fun _ => hfile⟩

/-! ## Discovery and resolution -/

/-- The specifiers that are looked up are those of the discoverable files.  Files in
directories that cannot be opened are missing. -/
theorem exists_chunkLists (hfs : fs.WellFormed) (hf : f.Plain) (htypes : f.ValidTypes)
    (hgiven : given.isDiscovered = true) (hexcluded : s.excluded = [])
    (hglobs : globsOf s.ignoredGlobs = .ok globs) (hown : ownChunkExpression s = .ok own)
    (hplain : ∀ q, fs.Reaches f.resolver.base q → q.IsPlain)
    (htext : ∀ q, f.Discoverable fs globs q → (seenFrom f.resolver.context q).IsText) :
    ∃ chunks, f.chunkLists fs s given = .ok chunks ∧ chunks.keys.Nodup ∧
      (∀ chunk ∈ chunks, ∀ specifier ∈ chunk.2, ∃ q, f.Discoverable fs globs q ∧
        chunkOf f.resolver.base own q = chunk.1 ∧
          specifierOf f.resolver.context q = specifier) ∧
      ∀ q, f.Discoverable fs globs q → FileSystem.Opens q →
        ∃ chunk ∈ chunks, specifierOf f.resolver.context q ∈ chunk.2 := by
  obtain ⟨chunks, hchunks, hmem⟩ := exists_discover htypes hglobs hown
  have hkeys := keys_discover_nodup hchunks
  have hfound : ∀ chunk ∈ chunks, ∀ specifier ∈ chunk.2, ∃ q, f.Discoverable fs globs q ∧
      chunkOf f.resolver.base own q = chunk.1 ∧
        specifierOf f.resolver.context q = specifier := by
    rintro ⟨name, specifiers⟩ hchunk specifier hspecifier
    have hget : specifier ∈ (chunks.get? name).getD [] := by
      rw [(Table.get?_eq_some_iff hkeys).mpr hchunk]
      exact hspecifier
    obtain ⟨q, hwalk, hclaimed, hunmatched, hname, hq⟩ := (hmem name specifier).mp hget
    exact ⟨q, discoverable_of_mem_walk hfs hf hwalk hclaimed hunmatched, hname, hq⟩
  have hlists : f.chunkLists fs s given = .ok chunks := by
    have hexpand : f.expandAll fs chunks = chunks := by
      refine expandAll_eq_self fun chunk hchunk specifier hspecifier => ?_
      obtain ⟨q, hq, -, rfl⟩ := hfound chunk hchunk specifier hspecifier
      exact hf.expand (isFilePath_of_reaches hfs hf hq.reaches (hplain q hq.reaches) (htext q hq))
        (isFile_or_isTooLong hfs hf hq.reaches).1
    rw [chunkLists, entriesOf, if_pos hgiven, hchunks]
    refine congrArg Except.ok ?_
    dsimp only
    rw [dropExcluded_of_nil hexcluded, hexpand]
  refine ⟨chunks, hlists, hkeys, hfound, fun q hq hopens => ?_⟩
  have hget := (hmem _ _).mpr ⟨q, hq.mem_walk hfs hf hopens, hq.claimed, hq.unmatched, rfl, rfl⟩
  cases hchunk : chunks.get? (chunkOf f.resolver.base own q) with
  | none =>
      rw [hchunk] at hget
      cases hget
  | some specifiers =>
      rw [hchunk] at hget
      exact ⟨_, Table.mem_of_get? hchunk, hget⟩

/-- A finder of scripts below a directory, seen from the root. -/
def scriptFinder (names : List RawText) : EntryFinder :=
  ofResolver
    { rewriting := {}
      endings := {}
      context := .ofNames []
      base := .ofNames names
      ignored := []
      moduleDirectories := []
      mainFiles := []
      mainProperties := []
      aliasProperties := [] }
    [("javaScript", { name := "javaScript", extension := "js", outputExtension := "js" })]

theorem plain_scriptFinder {names : List RawText} (h : ∀ name ∈ names, IsName name) :
    (scriptFinder names).Plain where
  aliases := rfl
  replacements := rfl
  suffixes := rfl
  ignored := rfl
  context_isAbsolute := Path.isAbsolute_ofNames []
  context_clean := @Path.clean_ofNames [] (List.forall_mem_nil _)
  base_isAbsolute := Path.isAbsolute_ofNames names
  base_clean := Path.clean_ofNames h

theorem validTypes_scriptFinder (names : List RawText) : (scriptFinder names).ValidTypes :=
  List.forall_mem_singleton.mpr ⟨none, rfl⟩

/-- In a directory with one file only that file is reached. -/
theorem reaches_single {names : List RawText} {name : RawText} {content : ByteArray}
    (h : ∀ other ∈ names ++ [name], IsName other)
    (hstart : fs.start? (.ofNames names) = some (.directory [(name, .file content)])) :
    fs.Reaches (.ofNames names) q ↔ q = .ofNames (names ++ [name]) := by
  obtain ⟨hnames, hname⟩ := List.forall_mem_append.mp h
  rw [← Path.entry_ofNames hnames (List.forall_mem_singleton.mp hname)]
  constructor
  · rintro ⟨node, below, other, hnode, hat, rfl⟩
    rw [hstart] at hnode
    obtain rfl := Option.some.inj hnode
    cases below with
    | nil => cases hat
    | cons first below =>
        obtain ⟨entries, child, hentries, hget, hat⟩ := Node.at?_cons_eq_some_iff.mp hat
        cases hentries
        obtain ⟨rfl, rfl⟩ : name = first ∧ Node.file content = child := by
          simpa using hget
        cases below with
        | nil => rfl
        | cons second below => cases hat
  · rintro rfl
    exact ⟨_, [name], content, hstart, by simp [Node.at?, Node.entries?], rfl⟩

/-- In a directory with one script only that script is discoverable. -/
theorem discoverable_single {names : List RawText} {name : RawText} {content : ByteArray}
    (h : ∀ other ∈ names ++ [name], IsName other)
    (hstart : fs.start? (.ofNames names) = some (.directory [(name, .file content)]))
    (hextension : (Path.stemAndExtension name).2 = some "js") :
    (scriptFinder names).Discoverable fs [] q ↔ q = .ofNames (names ++ [name]) := by
  constructor
  · exact fun hq => (reaches_single h hstart).mp hq.reaches
  · rintro rfl
    refine ⟨(reaches_single h hstart).mpr rfl, List.forall_mem_nil _,
      ⟨_, List.mem_singleton_self _, ?_⟩, List.forall_mem_nil _⟩
    have hsource : BuildType.sourceExtension (.ofNames (names ++ [name])) = "js" := by
      rw [BuildType.sourceExtension, Path.extension, Path.fileName_ofNames_concat h,
        Option.bind_some, hextension]
      rfl
    rw [BuildType.accepts, hsource]
    rfl

/-- A script whose name is no text is listed by its rendering, which denotes no file. -/
example : (fault? ((scriptFinder []).resolveFrom
    ⟨[(⟨[0xFF, 0x2E, 0x6A, 0x73]⟩, .file .empty)], ⟨"/"⟩⟩ {} .discovered)).map (·.message) =
      some "Given request \"./\uFFFD.js\" in chunk \"index\" couldn't be resolved" := by
  decide +kernel

/-! ## Paths that are too long -/

/-- A discoverable file whose path is too long for a look-up is not found again. -/
theorem exists_unresolvable (hfs : fs.WellFormed) (hf : f.Plain) (htypes : f.ValidTypes)
    (hgiven : given.isDiscovered = true) (hexcluded : s.excluded = [])
    (hexternal : s.externalSelectors = []) (hmain : f.resolver.mainFiles = [])
    (hglobs : globsOf s.ignoredGlobs = .ok globs) (hown : ownChunkExpression s = .ok own)
    (hplain : ∀ q, fs.Reaches f.resolver.base q → q.IsPlain)
    (htext : ∀ q, f.Discoverable fs globs q → (seenFrom f.resolver.context q).IsText)
    (hq : f.Discoverable fs globs q) (hopens : FileSystem.Opens q)
    (hlong : FileSystem.isTooLong q = true) :
    ∃ specifier chunk, f.resolveFrom fs s given = .error (.unresolvable specifier chunk) := by
  obtain ⟨chunks, hlists, -, -, hall⟩ :=
    exists_chunkLists hfs hf htypes hgiven hexcluded hglobs hown hplain htext
  obtain ⟨chunk, hchunk, hspecifier⟩ := hall q hq hopens
  have hnone := @Plain.resolve_of_isTooLong f fs q hf
    (isFilePath_of_reaches hfs hf hq.reaches (hplain q hq.reaches) (htext q hq)) hmain hlong
  have hnot : ¬ f.Settles fs s (specifierOf f.resolver.context q) := by
    rintro (hfile | ⟨⟨selector, hselector, -⟩, -⟩)
    · rw [hasFile, hnone] at hfile
      cases hfile
    · rw [hexternal] at hselector
      cases hselector
  cases hfault : f.firstFault? fs s chunks with
  | none => exact absurd (firstFault?_eq_none_iff.mp hfault chunk hchunk _ hspecifier) hnot
  | some e =>
      obtain ⟨-, name, -, specifier, -, -, -, -, -, -, rfl⟩ := firstFault?_eq_some_iff.mp hfault
      exact ⟨specifier, name,
        fault?_eq_some_iff.mp ((fault?_resolveFrom htypes hlists).trans hfault)⟩

/-- A name of 254 letters. -/
def loopName : RawText := ⟨List.replicate 254 (RawText.asciiByte 'l')⟩

/-- The names of a directory on a way that passes a link sixteen times. -/
def loopedNames : List RawText := List.replicate 16 loopName ++ [RawText.ofText "source"]

/-- A directory with a script, beside a link that leads back to where it lies.  The script
has the path of 4096 bytes on the way of `loopedNames`. -/
def looped : FileSystem :=
  ⟨[("source", .directory [("index.js", .file .empty)]), (loopName, .link ".")], ⟨"/"⟩⟩

theorem eq_of_mem_loopName {byte : UInt8} (h : byte ∈ loopName.bytes) :
    byte = RawText.asciiByte 'l' :=
  List.eq_of_mem_replicate h

theorem length_loopName : loopName.bytes.length = 254 := List.length_replicate

theorem isEntryName_of_mem_looped {name : RawText}
    (h : name ∈ loopedNames ++ [RawText.ofText "index.js"]) : IsEntryName name := by
  simp only [loopedNames, List.mem_append, List.mem_replicate, List.mem_singleton] at h
  obtain (⟨-, rfl⟩ | rfl) | rfl := h
  · exact FileSystem.isEntryName_replicate (by decide) (by decide) (by decide) (by decide)
  · exact ⟨⟨by decide, by decide, by decide, by decide⟩, by decide, by decide⟩
  · exact ⟨⟨by decide, by decide, by decide, by decide⟩, by decide, by decide⟩

theorem isUtf8_of_mem_looped {name : RawText}
    (h : name ∈ loopedNames ++ [RawText.ofText "index.js"]) : RawText.IsUtf8 name.bytes := by
  simp only [loopedNames, List.mem_append, List.mem_replicate, List.mem_singleton] at h
  obtain (⟨-, rfl⟩ | rfl) | rfl := h
  · have hletters : loopName.bytes = RawText.encode (List.replicate 254 'l') := by
      rw [RawText.encode_ascii fun c hc => (List.eq_of_mem_replicate hc).symm ▸ by decide,
        List.map_replicate]
      rfl
    rw [hletters]
    exact RawText.isUtf8_encode _
  · exact RawText.isUtf8_encode _
  · exact RawText.isUtf8_encode _

theorem isTooLong_loopedNames : FileSystem.isTooLong (.ofNames loopedNames) = false := by
  rw [FileSystem.isTooLong, loopedNames,
    FileSystem.length_ofNames_replicate _ _ (by decide), length_loopName]
  decide

theorem isTooLong_loopedScript :
    FileSystem.isTooLong (.ofNames (loopedNames ++ [RawText.ofText "index.js"])) = true := by
  rw [FileSystem.isTooLong, loopedNames, List.append_assoc,
    FileSystem.length_ofNames_replicate _ _ (by decide), length_loopName]
  decide

theorem source_ne_loopName : RawText.ofText "source" ≠ loopName := by
  intro heq
  have hlength := length_loopName
  rw [← heq] at hlength
  exact absurd hlength (by decide)

theorem wellFormed_looped : looped.WellFormed := by
  have hsource : IsEntryName "source" := isEntryName_of_mem_looped (by simp [loopedNames])
  have hindex : IsEntryName "index.js" := isEntryName_of_mem_looped (by simp)
  have hloop : IsEntryName loopName := isEntryName_of_mem_looped (by simp [loopedNames])
  have hdirectory : (Node.directory [("index.js", .file .empty)]).WellFormed :=
    .directory (List.nodup_singleton _) (List.forall_mem_singleton.mpr hindex)
      (List.forall_mem_singleton.mpr (.file _))
  refine .directory ?_ ?_ ?_
  · exact List.nodup_cons.mpr
      ⟨fun h => source_ne_loopName (List.mem_singleton.mp h), List.nodup_singleton _⟩
  · exact List.forall_mem_cons.mpr ⟨hsource, List.forall_mem_singleton.mpr hloop⟩
  · exact List.forall_mem_cons.mpr ⟨hdirectory, List.forall_mem_singleton.mpr (.link _)⟩

theorem get?_loopedNames :
    looped.get? (.ofNames loopedNames) = some (.directory [("index.js", .file .empty)]) := by
  have hnames : ∀ name ∈ loopedNames, IsEntryName name := fun name hname =>
    isEntryName_of_mem_looped (List.mem_append_left _ hname)
  have hnul : ¬ (Path.ofNames loopedNames).bytes.contains 0 = true := by
    rw [List.contains_iff_mem, Path.mem_bytes_ofNames (by decide)]
    rintro ⟨name, hname, hmem⟩
    exact (hnames name hname).not_mem_nul hmem
  have hget : Table.get? looped.root loopName = some (.link ".") := by
    rw [looped, Table.get?_cons, if_neg source_ne_loopName, Table.get?_cons, if_pos rfl]
  have hpass : FileSystem.pass looped.top true [] (["source"].map RawText.bytes) =
      .arrived ["source"] := by
    rfl
  have htrace : FileSystem.trace looped.top true FileSystem.maxLinks []
      (loopedNames.map RawText.bytes) = .ok ["source"] := by
    rw [loopedNames, List.map_append, List.map_replicate]
    refine (FileSystem.trace_loop hget (hnames _ (by simp [loopedNames])) 16 24 _).trans ?_
    exact FileSystem.trace_of_arrived hpass
  rw [FileSystem.get?_eq_some_iff, FileSystem.find_eq_ok_iff]
  refine ⟨["source"], ?_, rfl⟩
  rw [FileSystem.locate_ofNames fun name hname => (hnames name hname).toIsName, if_neg hnul,
    isTooLong_loopedNames, if_neg Bool.false_ne_true, htrace]

end EntryFinder

end BundleConfig
