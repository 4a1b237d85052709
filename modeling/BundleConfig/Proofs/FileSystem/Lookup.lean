import BundleConfig.FileSystem.Basic
import BundleConfig.Proofs.Path.Names
import BundleConfig.Proofs.Result
import BundleConfig.Proofs.Table

/-!
# Looking up paths of names

A tree is *well-formed* when the names in each of its directories are distinct and can
be names on disk.  In such a tree a path of names is followed name by name, and what
lies below a node that is found is found at the longer path, unless that is too long
(`FileSystem.get?_ofNames_append`).

*Links.*  A look-up is a chain of passes, each of which ends at a link or arrives.
`FileSystem.trace_append` cuts it in two: where the first pieces lead somewhere, the
others go on from there, with fewer links left to follow.  The number does not matter
for names that pass no further link.
-/

namespace BundleConfig

open RawText (slash dot)

/-! ## Well-formed trees -/

/-- A raw text that can be the name of an entry on disk. -/
structure IsEntryName (name : RawText) : Prop extends IsName name where
  size_le : name.bytes.length ≤ 255
  not_mem_nul : 0 ∉ name.bytes

instance (name : RawText) : Decidable (IsEntryName name) :=
  decidable_of_iff
    ((name.bytes ≠ [] ∧ name.bytes ≠ [dot] ∧ name.bytes ≠ [dot, dot] ∧ slash ∉ name.bytes) ∧
      name.bytes.length ≤ 255 ∧ 0 ∉ name.bytes)
    ⟨fun ⟨⟨hempty, hhere, hup, hslash⟩, hsize, hnul⟩ =>
        ⟨⟨hempty, hhere, hup, hslash⟩, hsize, hnul⟩,
      fun ⟨⟨hempty, hhere, hup, hslash⟩, hsize, hnul⟩ =>
        ⟨⟨hempty, hhere, hup, hslash⟩, hsize, hnul⟩⟩

theorem isName_append {names below : List RawText} (h : ∀ name ∈ names, IsName name)
    (hbelow : ∀ name ∈ below, IsEntryName name) : ∀ name ∈ names ++ below, IsName name :=
  List.forall_mem_append.mpr ⟨h, fun name hname => (hbelow name hname).toIsName⟩

namespace Node

/-- In every directory the names are distinct and can be names on disk. -/
inductive WellFormed : Node → Prop
  | file (content : ByteArray) : WellFormed (.file content)
  | link (target : RawText) : WellFormed (.link target)
  | directory {entries : List (RawText × Node)} (hkeys : (Table.keys entries).Nodup)
      (hnames : ∀ entry ∈ entries, IsEntryName entry.1)
      (hnodes : ∀ entry ∈ entries, WellFormed entry.2) : WellFormed (.directory entries)

theorem at?_append (names more : List RawText) (node : Node) :
    at? (names ++ more) node = (at? names node).bind (at? more) := by
  induction names generalizing node with
  | nil => rfl
  | cons name names ih =>
      rw [List.cons_append, at?, at?]
      cases node.entries?.bind (Table.get? · name) with
      | none => rfl
      | some child => exact ih child

theorem at?_cons_eq_some_iff {name : RawText} {names : List RawText} {node found : Node} :
    at? (name :: names) node = some found ↔
      ∃ entries child, node = .directory entries ∧ Table.get? entries name = some child ∧
        at? names child = some found := by
  cases node <;> simp [at?, entries?, Option.bind_eq_some_iff]

/-- Below a well-formed node everything is well-formed. -/
theorem WellFormed.of_at? {names : List RawText} {node found : Node} (h : node.WellFormed)
    (hat : node.at? names = some found) :
    found.WellFormed ∧ ∀ name ∈ names, IsEntryName name := by
  induction names generalizing node with
  | nil =>
      cases hat
      exact ⟨h, List.forall_mem_nil _⟩
  | cons name names ih =>
      obtain ⟨entries, child, rfl, hget, hat⟩ := at?_cons_eq_some_iff.mp hat
      cases h with
      | directory hkeys hnames hnodes =>
          have hmem := Table.mem_of_get? hget
          obtain ⟨hfound, hrest⟩ := ih (hnodes _ hmem) hat
          exact ⟨hfound, List.forall_mem_cons.mpr ⟨hnames _ hmem, hrest⟩⟩

end Node

namespace FileSystem

/-- The tree of the file system is well-formed. -/
def WellFormed (fs : FileSystem) : Prop := fs.top.WellFormed

variable {top : Node} {here : List RawText}

/-! ## One pass -/

/-- A pass over two parts goes on with the second part where it arrived in the first.
A link of the first part leaves the second one to do. -/
theorem pass_append (before after : List (List UInt8)) :
    pass top true here (before ++ after) =
      match pass top true here before with
      | .arrived names => pass top true names after
      | .linked names target rest => .linked names target (rest ++ after)
      | .failed fault => .failed fault := by
  induction before generalizing here with
  | nil => rfl
  | cons piece before ih =>
      rw [List.cons_append, pass, pass]
      cases move top here piece with
      | onward names => exact ih
      | link name target => simp
      | failed fault => rfl

/-- A name leads to the entry of the name, or to the link it is. -/
theorem move_bytes {entries : List (RawText × Node)} {name : RawText}
    (hhere : top.at? here.reverse = some (.directory entries)) (hname : IsEntryName name) :
    move top here name.bytes =
      match Table.get? entries name with
      | none => .failed .notFound
      | some (.link target) => .link name target
      | some _ => .onward (name :: here) := by
  have hpiece := Component.isPiece_iff.mp (Component.isPiece_bytes hname.toIsName)
  rw [move, hhere]
  dsimp only
  rw [if_neg (not_or.mpr hpiece), if_neg hname.ne_up]
  exact if_neg (Nat.not_lt.mpr hname.size_le)

/-- What a piece that is a link leads to is there. -/
theorem at?_of_move_eq_link {piece : List UInt8} {name target : RawText}
    (h : move top here piece = .link name target) :
    top.at? (name :: here).reverse = some (.link target) := by
  unfold move at h
  split at h
  next entries hhere =>
    repeat' split at h
    all_goals cases h
    next hget =>
      rw [List.reverse_cons, Node.at?_append, hhere]
      exact Node.at?_cons_eq_some_iff.mpr ⟨entries, _, rfl, hget, rfl⟩
  next => cases h

/-- A pass over the names of a node that is there arrives, if the node is no link. -/
theorem pass_names {below : List RawText} {node target : Node}
    (hhere : top.at? here.reverse = some node) (hbelow : node.at? below = some target)
    (hlink : target.isLink = false) (hnames : ∀ name ∈ below, IsEntryName name) :
    pass top true here (below.map RawText.bytes) = .arrived (below.reverse ++ here) := by
  induction below generalizing here node with
  | nil => rfl
  | cons name below ih =>
      obtain ⟨hname, hnames⟩ := List.forall_mem_cons.mp hnames
      obtain ⟨entries, child, rfl, hget, hbelow⟩ := Node.at?_cons_eq_some_iff.mp hbelow
      have hchild : top.at? (name :: here).reverse = some child := by
        rw [List.reverse_cons, Node.at?_append, hhere, Option.bind_some]
        exact Node.at?_cons_eq_some_iff.mpr ⟨entries, child, rfl, hget, rfl⟩
      have hnolink : child.isLink = false := by
        cases below with
        | nil =>
            cases hbelow
            exact hlink
        | cons next below =>
            obtain ⟨_, _, rfl, -⟩ := Node.at?_cons_eq_some_iff.mp hbelow
            rfl
      have hmove : move top here name.bytes = .onward (name :: here) := by
        rw [move_bytes hhere hname, hget]
        cases child with
        | file => rfl
        | directory => rfl
        | link => cases hnolink
      rw [List.map_cons, pass, hmove]
      exact (ih hchild hbelow hnames).trans (by rw [List.reverse_cons, List.append_assoc]; rfl)

/-! ## Passes through links -/

theorem trace_congr {follow : Bool} {links : Nat} {here' : List RawText}
    {pieces pieces' : List (List UInt8)}
    (h : pass top follow here pieces = pass top follow here' pieces') :
    trace top follow links here pieces = trace top follow links here' pieces' := by
  rw [trace, trace, h]

/-- Behind pieces that are followed somewhere, more pieces are followed from there,
with the links that are left. -/
theorem trace_append {links : Nat} {before : List (List UInt8)} {names : List RawText}
    (after : List (List UInt8)) (h : trace top true links here before = .ok names) :
    ∃ left, trace top true links here (before ++ after) =
      trace top true left names.reverse after := by
  induction links generalizing here before with
  | zero =>
      rw [trace] at h
      split at h
      next found hpass =>
        cases h
        rw [List.reverse_reverse]
        exact ⟨0, trace_congr (by rw [pass_append, hpass])⟩
      next => cases h
      next => cases h
  | succ links ih =>
      rw [trace] at h
      split at h
      next found hpass =>
        cases h
        rw [List.reverse_reverse]
        exact ⟨links + 1, trace_congr (by rw [pass_append, hpass])⟩
      next => cases h
      next directory target rest hpass =>
        obtain ⟨left, hleft⟩ := ih h
        refine ⟨left, ?_⟩
        rw [trace, pass_append, hpass, ← hleft, List.append_assoc]

theorem trace_of_arrived {follow : Bool} {links : Nat} {pieces : List (List UInt8)}
    {names : List RawText} (h : pass top follow here pieces = .arrived names) :
    trace top follow links here pieces = .ok names.reverse := by
  rw [trace, h]

/-- A link in the root directory that leads back there takes one link to pass. -/
theorem trace_loop {entries : List (RawText × Node)} {name : RawText}
    (hget : Table.get? entries name = some (.link ".")) (hname : IsEntryName name)
    (count links : Nat) (pieces : List (List UInt8)) :
    trace (.directory entries) true (links + count) []
        (List.replicate count name.bytes ++ pieces) =
      trace (.directory entries) true links [] pieces := by
  induction count with
  | zero => rfl
  | succ count ih =>
      have hpass : pass (.directory entries) true []
          (name.bytes :: (List.replicate count name.bytes ++ pieces)) =
            .linked [] "." (List.replicate count name.bytes ++ pieces) := by
        rw [pass, move_bytes rfl hname, hget]
        simp
      rw [List.replicate_succ, List.cons_append, ← Nat.add_assoc, trace, hpass]
      refine Eq.trans (trace_congr ?_) ih
      rfl

/-- Whether the last link is followed makes a difference only at a link. -/
theorem pass_follow (pieces : List (List UInt8)) :
    pass top true here pieces = pass top false here pieces ∨
      ∃ names target, pass top false here pieces = .arrived names ∧
        top.at? names.reverse = some (.link target) := by
  induction pieces generalizing here with
  | nil => exact .inl rfl
  | cons piece rest ih =>
      rw [pass, pass]
      cases hmove : move top here piece with
      | onward names => exact ih
      | link name target =>
          cases rest with
          | nil => exact .inr ⟨name :: here, target, rfl, at?_of_move_eq_link hmove⟩
          | cons next rest => exact .inl rfl
      | failed fault => exact .inl rfl

theorem trace_follow (links : Nat) (pieces : List (List UInt8)) :
    trace top true links here pieces = trace top false links here pieces ∨
      ∃ names target, trace top false links here pieces = .ok names ∧
        top.at? names = some (.link target) := by
  induction links generalizing here pieces with
  | zero =>
      obtain hpass | ⟨names, target, hpass, hat⟩ := @pass_follow top here pieces
      · exact .inl (by rw [trace, trace, hpass])
      · exact .inr ⟨_, target, trace_of_arrived hpass, hat⟩
  | succ links ih =>
      obtain hpass | ⟨names, target, hpass, hat⟩ := @pass_follow top here pieces
      · rw [trace, trace, hpass]
        cases pass top false here pieces with
        | arrived names => exact .inl rfl
        | failed fault => exact .inl rfl
        | linked directory target rest => exact ih _
      · exact .inr ⟨_, target, trace_of_arrived hpass, hat⟩

variable {fs : FileSystem}

theorem find_eq_ok_iff {p : Path} {follow : Bool} {node : Node} :
    fs.find p follow = .ok node ↔
      ∃ names, fs.locate p follow = .ok names ∧ fs.top.at? names = some node := by
  rw [find, bind_eq_ok]
  refine exists_congr fun names => and_congr_right fun _ => ?_
  cases fs.top.at? names <;> simp [pure, Except.pure, throw, throwThe, MonadExceptOf.throw]

theorem get?_eq_some_iff {p : Path} {node : Node} :
    fs.get? p = some node ↔ fs.find p true = .ok node :=
  toOption_eq_some_iff

/-- Where the node is no link, it does not matter whether the last link is followed. -/
theorem find_follow (p : Path) :
    fs.find p true = fs.find p false ∨ ∃ target, fs.find p false = .ok (.link target) := by
  have hlocate : fs.locate p true = fs.locate p false ∨
      ∃ names target, fs.locate p false = .ok names ∧ fs.top.at? names = some (.link target) := by
    unfold locate
    split
    · exact .inl rfl
    · split
      · exact .inl rfl
      · split
        · exact .inl rfl
        · exact trace_follow maxLinks _
  obtain heq | ⟨names, target, hnames, hat⟩ := hlocate
  · exact .inl (by rw [find, find, heq])
  · exact .inr ⟨target, find_eq_ok_iff.mpr ⟨names, hnames, hat⟩⟩

/-! ## Paths of names -/

theorem isEntryName_replicate {count : Nat} {byte : UInt8} (hcount : 2 < count)
    (hslash : byte ≠ slash) (hnul : byte ≠ 0) (hsize : count ≤ 255) :
    IsEntryName ⟨List.replicate count byte⟩ := by
  have hne : ∀ {bytes : List UInt8}, bytes.length ≤ 2 → List.replicate count byte ≠ bytes := by
    rintro bytes hbytes rfl
    rw [List.length_replicate] at hbytes
    omega
  refine ⟨⟨hne (by decide), hne (by decide), hne (by decide), ?_⟩, ?_, ?_⟩
  · exact fun hmem => hslash (List.eq_of_mem_replicate hmem).symm
  · rwa [List.length_replicate]
  · exact fun hmem => hnul (List.eq_of_mem_replicate hmem).symm

/-- In the spelling of a path a name takes its own bytes and one for a slash. -/
theorem length_ofNames_cons (name : RawText) {names : List RawText} (hne : names ≠ []) :
    (Path.ofNames (name :: names)).bytes.length =
      name.bytes.length + 1 + (Path.ofNames names).bytes.length := by
  rw [Path.bytes_ofNames_of_ne_nil (List.cons_ne_nil name names), List.flatMap_cons,
    ← Path.bytes_ofNames_of_ne_nil hne, List.length_append, List.length_cons]

theorem length_ofNames_replicate (count : Nat) (name : RawText) {more : List RawText}
    (hmore : more ≠ []) :
    (Path.ofNames (List.replicate count name ++ more)).bytes.length =
      count * (name.bytes.length + 1) + (Path.ofNames more).bytes.length := by
  induction count with
  | zero => rw [Nat.zero_mul, Nat.zero_add]; rfl
  | succ count ih =>
      rw [List.replicate_succ, List.cons_append, length_ofNames_cons name
        (List.append_ne_nil_of_right_ne_nil _ hmore), ih, Nat.succ_mul]
      omega

/-- A path that continues one that is too long is too long. -/
theorem isTooLong_of_startsWith {p q : Path} (h : p.bytes <+: q.bytes) (hp : isTooLong p = true) :
    isTooLong q = true := by
  rw [isTooLong, decide_eq_true_iff] at hp ⊢
  exact hp.trans h.length_le

/-- Nothing is found at a path that is too long. -/
theorem get?_of_isTooLong {p : Path} (h : isTooLong p = true) : fs.get? p = none := by
  rw [Option.eq_none_iff_forall_ne_some]
  intro node hnode
  obtain ⟨found, hlocate, -⟩ := find_eq_ok_iff.mp (get?_eq_some_iff.mp hnode)
  rw [locate, if_pos h] at hlocate
  repeat' split at hlocate
  all_goals cases hlocate

theorem isDirectory_of_isFile {p : Path} (h : fs.isFile p = true) : fs.isDirectory p = false := by
  rw [isFile] at h
  rw [isDirectory]
  cases hget : fs.get? p with
  | none => rfl
  | some node =>
      rw [hget] at h
      cases node with
      | file => rfl
      | directory => cases h
      | link => cases h

theorem pass_idle {follow : Bool} (pieces : List (List UInt8)) :
    pass fs.top follow [] ([] :: pieces) = pass fs.top follow [] pieces :=
  rfl

/-- A path of names is followed name by name, if nothing is wrong with its spelling. -/
theorem locate_ofNames {names : List RawText} (h : ∀ name ∈ names, IsName name) (follow : Bool) :
    fs.locate (.ofNames names) follow =
      if (Path.ofNames names).bytes.contains 0 then .error .nulInName
      else if isTooLong (.ofNames names) then .error .nameTooLong
      else trace fs.top follow maxLinks [] (names.map RawText.bytes) := by
  have hempty : (Path.ofNames names).bytes.isEmpty = false := by rw [Path.bytes_ofNames]; rfl
  have hpieces : pass fs.top follow [] (Text.split slash (Path.ofNames names).bytes) =
      pass fs.top follow [] (names.map RawText.bytes) := by
    rw [Path.bytes_ofNames, Text.split_cons_self, pass_idle]
    cases names with
    | nil => rfl
    | cons name names => rw [Path.split_join_names (List.cons_ne_nil name names) h]
  rw [locate, hempty, if_neg Bool.false_ne_true, if_pos (Path.isAbsolute_ofNames names),
    trace_congr hpieces]

/-- What lies below a node that is found is found, unless its path is too long. -/
theorem get?_ofNames_append {names below : List RawText} {node target : Node}
    (hnames : ∀ name ∈ names, IsName name) (hbelow : ∀ name ∈ below, IsEntryName name)
    (hnode : fs.get? (.ofNames names) = some node) (hat : node.at? below = some target)
    (hlink : target.isLink = false) (hshort : isTooLong (.ofNames (names ++ below)) = false) :
    fs.get? (.ofNames (names ++ below)) = some target := by
  have hall := isName_append hnames hbelow
  obtain ⟨found, hfound, hnode⟩ := find_eq_ok_iff.mp (get?_eq_some_iff.mp hnode)
  rw [locate_ofNames hnames] at hfound
  split at hfound
  · cases hfound
  next hnul =>
    split at hfound
    · cases hfound
    · obtain ⟨left, htrace⟩ := trace_append (below.map RawText.bytes) hfound
      have hreverse : fs.top.at? found.reverse.reverse = some node := by
        rw [List.reverse_reverse]
        exact hnode
      rw [trace_of_arrived (pass_names hreverse hat hlink hbelow), List.reverse_append,
        List.reverse_reverse, List.reverse_reverse, ← List.map_append] at htrace
      refine get?_eq_some_iff.mpr (find_eq_ok_iff.mpr ⟨found ++ below, ?_, ?_⟩)
      · rw [locate_ofNames hall, if_neg, hshort, if_neg Bool.false_ne_true]
        · exact htrace
        · rw [List.contains_iff_mem, Path.mem_bytes_ofNames (by decide)] at hnul ⊢
          rintro ⟨name, hname, hmem⟩
          obtain hname | hname := List.mem_append.mp hname
          · exact hnul ⟨name, hname, hmem⟩
          · exact (hbelow name hname).not_mem_nul hmem
      · rw [Node.at?_append, hnode]
        exact hat

end FileSystem

end BundleConfig
