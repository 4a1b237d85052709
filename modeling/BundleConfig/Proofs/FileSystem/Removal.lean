import BundleConfig.Proofs.FileSystem.Lookup

/-!
# Removing a file

A file that is deleted is gone, and everything else is as before: every other file and link, and
every directory up to its entry of that file (`FileSystem.Removed`).

A look-up that finds something else in the end finds the same after the removal
(`Removed.trace`), since no look-up goes on behind a file.

The entry of a name in a directory is looked up by the pieces that lead to the directory, whatever
the name is, and by the name (`FileSystem.locate_entry_iff`).  So the entries of a directory are
found in one place.
-/

namespace BundleConfig

open RawText (slash dot)

/-! ## One node less -/

namespace Node

/-- The node without what is in it. -/
def own : Node → Node
  | .directory _ => .directory []
  | node => node

/-- Nothing is at the names, and everything else is the same. -/
structure Without (node node' : Node) (names : List RawText) : Prop where
  gone : node'.at? names = none
  others : ∀ other, other ≠ names → (node'.at? other).map own = (node.at? other).map own

theorem own_eq_directory {node : Node} {entries : List (RawText × Node)}
    (h : node.own = .directory entries) : ∃ inner, node = .directory inner := by
  cases node with
  | directory inner => exact ⟨inner, rfl⟩
  | file => cases h
  | link => cases h

theorem at?_of_isDirectory_eq_false {node : Node} (h : node.isDirectory = false)
    {names : List RawText} (hne : names ≠ []) : node.at? names = none := by
  cases names with
  | nil => exact absurd rfl hne
  | cons name rest =>
      cases node with
      | directory => cases h
      | file => rfl
      | link => rfl

theorem at?_directory (name : RawText) (rest : List RawText) (entries : List (RawText × Node)) :
    (directory entries).at? (name :: rest) = (Table.get? entries name).bind (at? rest) :=
  rfl

/-- Erasing the entry of a file or a link takes it away and nothing else. -/
theorem without_erase {entries : List (RawText × Node)} (hw : (directory entries).WellFormed)
    {name : RawText} {leaf : Node} (hget : Table.get? entries name = some leaf)
    (hleaf : leaf.isDirectory = false) :
    (directory (Table.erase entries name)).WellFormed ∧
      Without (directory entries) (directory (Table.erase entries name)) [name] := by
  cases hw with
  | directory hkeys hnames hnodes =>
      refine ⟨.directory (((Table.erase_sublist _ name).map _).nodup hkeys)
        (fun entry hmem => hnames entry (Table.mem_of_mem_erase hmem))
        (fun entry hmem => hnodes entry (Table.mem_of_mem_erase hmem)), ?_, ?_⟩
      · rw [at?_directory, Table.get?_erase_self hkeys]
        rfl
      · intro other hother
        cases other with
        | nil => rfl
        | cons first rest =>
            rw [at?_directory, at?_directory]
            by_cases hfirst : first = name
            · subst hfirst
              have hrest : rest ≠ [] := fun hnil => hother (by rw [hnil])
              rw [Table.get?_erase_self hkeys, hget, Option.bind_some,
                at?_of_isDirectory_eq_false hleaf hrest]
              rfl
            · rw [Table.get?_erase_of_ne entries hfirst]

/-- The same goes for an entry further below. -/
theorem exists_modifyAt?_erase {node leaf : Node} {directory : List RawText} {name : RawText}
    {entries : List (RawText × Node)} (hw : node.WellFormed)
    (hat : node.at? directory = some (.directory entries))
    (hget : Table.get? entries name = some leaf) (hleaf : leaf.isDirectory = false) :
    ∃ entries', node.modifyAt? (Table.erase · name) directory = some (.directory entries') ∧
      (Node.directory entries').WellFormed ∧
      Without node (.directory entries') (directory ++ [name]) := by
  induction directory generalizing node with
  | nil =>
      cases hat
      exact ⟨_, rfl, without_erase hw hget hleaf⟩
  | cons first rest ih =>
      obtain ⟨top, child, rfl, hchild, hat⟩ := at?_cons_eq_some_iff.mp hat
      cases hw with
      | directory hkeys hnames hnodes =>
          have hmem := Table.mem_of_get? hchild
          obtain ⟨entries', hmodify, hw', hwithout⟩ := ih (hnodes _ hmem) hat
          refine ⟨Table.insert top first (.directory entries'), ?_, ?_, ?_, ?_⟩
          · rw [modifyAt?, Table.modify?_of_get? hchild hmodify]
            rfl
          · refine .directory (Table.keys_insert_nodup hkeys _ _) ?_ ?_
            · intro entry hentry
              obtain hentry | rfl := Table.mem_of_mem_insert hentry
              · exact hnames entry hentry
              · exact hnames (first, child) hmem
            · intro entry hentry
              obtain hentry | rfl := Table.mem_of_mem_insert hentry
              · exact hnodes entry hentry
              · exact hw'
          · rw [List.cons_append, at?_directory, Table.get?_insert_self]
            exact hwithout.gone
          · intro other hother
            cases other with
            | nil => rfl
            | cons next below =>
                rw [at?_directory, at?_directory]
                by_cases hnext : next = first
                · subst hnext
                  rw [Table.get?_insert_self, hchild]
                  exact hwithout.others below fun heq => hother (by rw [heq]; rfl)
                · rw [Table.get?_insert_of_ne top _ hnext]

end Node

namespace Path

/-! ## Entries of a directory -/

/-- The bytes before the name of an entry of the directory `p`. -/
def leading (p : Path) : List UInt8 :=
  if p.bytes.isEmpty ∨ p.bytes.getLast? = some slash then p.bytes else p.bytes ++ [slash]

theorem leading_eq (p : Path) : p.leading = [] ∨ ∃ cs, p.leading = cs ++ [slash] := by
  rw [leading]
  split
  next h =>
    obtain hempty | hslash := h
    · exact .inl (List.isEmpty_iff.mp hempty)
    · obtain ⟨cs, hcs⟩ := List.getLast?_eq_some_iff.mp hslash
      exact .inr ⟨cs, hcs⟩
  next => exact .inr ⟨p.bytes, rfl⟩

theorem bytes_join_of_not_absolute {p q : Path} (h : q.isAbsolute = false) :
    (p.join q).bytes = p.leading ++ q.bytes := by
  rw [join, h, if_neg Bool.false_ne_true, leading]
  split
  · rfl
  · rw [List.append_assoc]
    rfl

variable {name : RawText}

theorem isAbsolute_mk (h : slash ∉ name.bytes) : (⟨name⟩ : Path).isAbsolute = false := by
  rw [Bool.eq_false_iff, Ne, isAbsolute_iff]
  rintro ⟨cs, hcs⟩
  have hbytes : name.bytes = slash :: cs := hcs
  exact h (hbytes ▸ List.mem_cons_self)

theorem bytes_entry (p : Path) (h : slash ∉ name.bytes) :
    (p.entry name).bytes = p.leading ++ name.bytes :=
  bytes_join_of_not_absolute (isAbsolute_mk h)

theorem isAbsolute_entry_eq (p : Path) (h : slash ∉ name.bytes) :
    (p.entry name).isAbsolute = p.isAbsolute := by
  rw [isAbsolute, isAbsolute, bytes_entry p h, leading]
  cases hbytes : p.bytes with
  | nil =>
      have hname := isAbsolute_mk h
      rw [isAbsolute] at hname
      exact hname
  | cons c cs =>
      split <;> rfl

end Path

namespace FileSystem

variable {fs fs' : FileSystem}

/-- The pieces before the name of an entry of a directory. -/
def lead (fs : FileSystem) (p : Path) : List (List UInt8) :=
  (Text.split slash (if p.isAbsolute then p.leading
    else fs.workingDirectory.leading ++ p.leading)).dropLast

theorem split_leading {before : List UInt8} (h : before = [] ∨ ∃ cs, before = cs ++ [slash])
    {name : List UInt8} (hname : slash ∉ name) :
    Text.split slash (before ++ name) = (Text.split slash before).dropLast ++ [name] := by
  obtain rfl | ⟨cs, rfl⟩ := h
  · exact Text.split_of_not_mem hname
  · rw [List.append_assoc, List.cons_append, List.nil_append, Text.split_append,
      Text.split_of_not_mem hname, Text.split_append, Text.split_of_not_mem List.not_mem_nil,
      List.dropLast_concat]

/-- The entry of a name is looked up by the pieces of its directory and then by the name. -/
theorem locate_entry {p : Path} {name : RawText} (hne : name.bytes ≠ [])
    (hslash : slash ∉ name.bytes) (follow : Bool) :
    fs.locate (p.entry name) follow =
      if (p.entry name).bytes.contains 0 then .error .nulInName
      else if isTooLong (p.entry name) then .error .nameTooLong
      else trace fs.top follow maxLinks [] (fs.lead p ++ [name.bytes]) := by
  have hempty : (p.entry name).bytes.isEmpty = false := by
    rw [Path.bytes_entry p hslash]
    cases hbytes : name.bytes with
    | nil => exact absurd hbytes hne
    | cons c cs => cases p.leading <;> rfl
  have hpieces : Text.split slash
      (if (p.entry name).isAbsolute then p.entry name
        else fs.workingDirectory.join (p.entry name)).bytes = fs.lead p ++ [name.bytes] := by
    rw [Path.isAbsolute_entry_eq p hslash, lead]
    cases habsolute : p.isAbsolute with
    | true =>
        rw [if_pos rfl, if_pos rfl, Path.bytes_entry p hslash]
        exact split_leading p.leading_eq hslash
    | false =>
        have hentry : (p.entry name).isAbsolute = false := by
          rw [Path.isAbsolute_entry_eq p hslash, habsolute]
        rw [if_neg Bool.false_ne_true, if_neg Bool.false_ne_true,
          Path.bytes_join_of_not_absolute hentry, Path.bytes_entry p hslash, ← List.append_assoc]
        refine split_leading ?_ hslash
        obtain hnil | ⟨cs, hcs⟩ := p.leading_eq
        · rw [hnil, List.append_nil]
          exact fs.workingDirectory.leading_eq
        · exact .inr ⟨fs.workingDirectory.leading ++ cs, by rw [hcs, List.append_assoc]⟩
  rw [locate, hempty, if_neg Bool.false_ne_true, ← hpieces]

/-! ## The last piece -/

variable {top top' : Node} {here : List RawText}

/-- What a passage comes to when more pieces follow. -/
def Passage.extend (more : List (List UInt8)) (onward : List RawText → Passage) : Passage → Passage
  | .arrived names => onward names
  | .linked names target rest => .linked names target (rest ++ more)
  | .failed fault => .failed fault

/-- Before a last piece every link is followed. -/
theorem pass_concat (before : List (List UInt8)) (last : List UInt8) :
    pass top false here (before ++ [last]) =
      (pass top true here before).extend [last] fun names => pass top false names [last] := by
  induction before generalizing here with
  | nil => rfl
  | cons piece before ih =>
      rw [List.cons_append, pass, pass]
      cases move top here piece with
      | onward names => exact ih
      | link name target => cases before <;> simp [Passage.extend]
      | failed fault => rfl

theorem at?_concat_of_directory {names : List RawText} {entries : List (RawText × Node)}
    (h : top.at? names = some (.directory entries)) (name : RawText) :
    top.at? (names ++ [name]) = Table.get? entries name := by
  rw [Node.at?_append, h, Option.bind_some, Node.at?_directory]
  exact Option.bind_fun_some _

theorem isEntryName_of_at? (hw : top.WellFormed) {names : List RawText} {name : RawText}
    {node : Node} (h : top.at? (names ++ [name]) = some node) : IsEntryName name :=
  (hw.of_at? h).2 name (List.mem_append_right _ List.mem_cons_self)

/-- The last name leads to what is at it, be it a link. -/
theorem pass_last {name : RawText} (hname : IsName name) (hw : top.WellFormed) :
    (∃ node, top.at? (here.reverse ++ [name]) = some node ∧
        pass top false here [name.bytes] = .arrived (name :: here)) ∨
      top.at? (here.reverse ++ [name]) = none ∧
        ∃ fault, pass top false here [name.bytes] = .failed fault := by
  have hpiece := Component.isPiece_iff.mp (Component.isPiece_bytes hname)
  rw [pass, move, Node.at?_append]
  cases hat : top.at? here.reverse with
  | none => exact .inr ⟨rfl, _, rfl⟩
  | some node =>
      cases node with
      | file content => exact .inr ⟨rfl, _, rfl⟩
      | link target => exact .inr ⟨rfl, _, rfl⟩
      | directory entries =>
          dsimp only
          rw [if_neg (not_or.mpr hpiece), if_neg hname.ne_up, Option.bind_some,
            Node.at?_directory]
          cases hget : Table.get? entries name with
          | none =>
              refine .inr ⟨rfl, ?_⟩
              by_cases hsize : name.bytes.length > 255
              · exact ⟨.nameTooLong, by rw [if_pos hsize]⟩
              · exact ⟨.notFound, by rw [if_neg hsize]⟩
          | some node =>
              have hentry : top.at? (here.reverse ++ [name]) = some node := by
                rw [at?_concat_of_directory hat, hget]
              have hsize := (isEntryName_of_at? hw hentry).size_le
              rw [if_neg (Nat.not_lt.mpr hsize)]
              refine .inl ⟨node, rfl, ?_⟩
              cases node <;> rfl

theorem trace_last_iff {name : RawText} (hname : IsName name) (hw : top.WellFormed) {links : Nat}
    {names : List RawText} :
    trace top false links here [name.bytes] = .ok names ↔
      names = here.reverse ++ [name] ∧ ∃ node, top.at? names = some node := by
  obtain ⟨node, hnode, hpass⟩ | ⟨hnone, fault, hpass⟩ := @pass_last top here name hname hw
  · rw [trace_of_arrived hpass, List.reverse_cons, Except.ok.injEq, eq_comm]
    constructor
    · rintro rfl
      exact ⟨rfl, node, hnode⟩
    · exact And.left
  · rw [trace, hpass]
    constructor
    · intro h
      cases h
    · rintro ⟨rfl, node, hnode⟩
      rw [hnone] at hnode
      cases hnode

/-- The entry of a name is where its directory is. -/
theorem trace_concat_iff {name : RawText} (hname : IsName name) (hw : top.WellFormed)
    {links : Nat} {before : List (List UInt8)} {names : List RawText} :
    trace top false links here (before ++ [name.bytes]) = .ok names ↔
      ∃ directory, trace top true links here before = .ok directory ∧
        names = directory ++ [name] ∧ ∃ node, top.at? names = some node := by
  have harrived : ∀ {links : Nat} {here found : List RawText} {before : List (List UInt8)},
      pass top true here before = .arrived found →
      (trace top false links here (before ++ [name.bytes]) = .ok names ↔
        ∃ directory, trace top true links here before = .ok directory ∧
          names = directory ++ [name] ∧ ∃ node, top.at? names = some node) := by
    intro links here found before hpass
    have hconcat := @pass_concat top here before name.bytes
    rw [hpass] at hconcat
    rw [trace_congr hconcat, trace_last_iff hname hw, trace_of_arrived hpass]
    simp
  induction links generalizing here before with
  | zero =>
      cases hpass : pass top true here before with
      | arrived found => exact harrived hpass
      | linked directory target rest =>
          rw [trace, trace, pass_concat, hpass]
          simp [Passage.extend]
      | failed fault =>
          rw [trace, trace, pass_concat, hpass]
          simp [Passage.extend]
  | succ links ih =>
      cases hpass : pass top true here before with
      | arrived found => exact harrived hpass
      | linked directory target rest =>
          rw [trace, trace, pass_concat, hpass, Passage.extend]
          dsimp only
          rw [← List.append_assoc]
          exact ih
      | failed fault =>
          rw [trace, trace, pass_concat, hpass]
          simp [Passage.extend]

/-- The entry of a name is found in the directory, if nothing is wrong with its spelling. -/
theorem locate_entry_iff {p : Path} {name : RawText} (hname : IsName name) (hw : fs.WellFormed)
    {names : List RawText} :
    fs.locate (p.entry name) false = .ok names ↔
      (p.entry name).bytes.contains 0 = false ∧ isTooLong (p.entry name) = false ∧
        ∃ directory, trace fs.top true maxLinks [] (fs.lead p) = .ok directory ∧
          names = directory ++ [name] ∧ ∃ node, fs.top.at? names = some node := by
  rw [locate_entry hname.ne_empty hname.not_mem_slash, ← trace_concat_iff hname hw]
  cases (p.entry name).bytes.contains 0 with
  | true => simp
  | false => cases isTooLong (p.entry name) <;> simp

/-- A directory is found by its entry `.` if another entry of it can be spelled. -/
theorem get?_entry_here {p : Path} {name : RawText} (hname : IsName name)
    {directory : List RawText} {entries : List (RawText × Node)}
    (hnul : (p.entry name).bytes.contains 0 = false)
    (hshort : isTooLong (p.entry name) = false)
    (hdirectory : trace fs.top true maxLinks [] (fs.lead p) = .ok directory)
    (hat : fs.top.at? directory = some (.directory entries)) :
    fs.get? (p.entry ".") = some (.directory entries) := by
  have hdot : (RawText.ofText ".").bytes = [dot] := rfl
  have hslash : slash ∉ (RawText.ofText ".").bytes := by decide
  have hnul' : (p.entry ".").bytes.contains 0 = false := by
    rw [Path.bytes_entry p hname.not_mem_slash, List.contains_append, Bool.or_eq_false_iff] at hnul
    rw [Path.bytes_entry p hslash, List.contains_append, hnul.1]
    rfl
  have hshort' : isTooLong (p.entry ".") = false := by
    have hsize : 0 < name.bytes.length := List.length_pos_iff.mpr hname.ne_empty
    rw [isTooLong, decide_eq_false_iff_not, Path.bytes_entry p hname.not_mem_slash,
      List.length_append] at hshort
    rw [isTooLong, decide_eq_false_iff_not, Path.bytes_entry p hslash, List.length_append, hdot,
      List.length_singleton]
    omega
  refine get?_eq_some_iff.mpr (find_eq_ok_iff.mpr ⟨directory, ?_, hat⟩)
  rw [locate_entry (by decide) hslash, hnul', if_neg Bool.false_ne_true, hshort',
    if_neg Bool.false_ne_true]
  obtain ⟨left, htrace⟩ := trace_append [[dot]] hdirectory
  have hpass : pass fs.top true directory.reverse [[dot]] = .arrived directory.reverse := by
    rw [pass, move, List.reverse_reverse, hat]
    rfl
  rw [hdot, htrace, trace_of_arrived hpass, List.reverse_reverse]

/-! ## After a removal -/

/-- A file or a link is gone, and everything else is the same. -/
structure Removed (fs fs' : FileSystem) (names : List RawText) : Prop
    extends Node.Without fs.top fs'.top names where
  workingDirectory : fs'.workingDirectory = fs.workingDirectory

variable {names : List RawText} {content : ByteArray}

theorem Removed.lead_eq (h : Removed fs fs' names) (p : Path) : fs'.lead p = fs.lead p := by
  rw [lead, lead, h.workingDirectory]

theorem Removed.at?_file (h : Removed fs fs' names) {other : List RawText} (hne : other ≠ names)
    (hat : fs.top.at? other = some (.file content)) :
    fs'.top.at? other = some (.file content) := by
  have hown := h.others other hne
  rw [hat] at hown
  cases hat' : fs'.top.at? other with
  | none =>
      rw [hat'] at hown
      cases hown
  | some node =>
      rw [hat'] at hown
      cases node with
      | file content' => exact hown
      | directory entries => cases hown
      | link target => cases hown

theorem Removed.at?_directory (h : Removed fs fs' names) {other : List RawText}
    (hne : other ≠ names) {entries : List (RawText × Node)}
    (hat : fs.top.at? other = some (.directory entries)) :
    ∃ entries', fs'.top.at? other = some (.directory entries') := by
  have hown := h.others other hne
  rw [hat] at hown
  cases hat' : fs'.top.at? other with
  | none =>
      rw [hat'] at hown
      cases hown
  | some node =>
      rw [hat'] at hown
      obtain ⟨entries', rfl⟩ := Node.own_eq_directory (Option.some.inj hown)
      exact ⟨entries', rfl⟩

theorem Removed.get? (h : Removed fs fs' names) {other : List RawText} {name : RawText}
    {entries entries' : List (RawText × Node)} (hne : other ++ [name] ≠ names)
    (hat : fs.top.at? other = some (.directory entries))
    (hat' : fs'.top.at? other = some (.directory entries')) :
    (Table.get? entries' name).map Node.own = (Table.get? entries name).map Node.own := by
  have hown := h.others _ hne
  rwa [at?_concat_of_directory hat, at?_concat_of_directory hat'] at hown

/-- A piece leads to the same place from directories that have the same at its name. -/
theorem move_congr {entries entries' : List (RawText × Node)} {piece : List UInt8}
    (hat : top.at? here.reverse = some (.directory entries))
    (hat' : top'.at? here.reverse = some (.directory entries'))
    (hget : (Table.get? entries' ⟨piece⟩).map Node.own =
      (Table.get? entries ⟨piece⟩).map Node.own) :
    move top' here piece = move top here piece := by
  rw [move, move, hat, hat']
  dsimp only
  split
  · rfl
  · split
    · rfl
    · split
      · rfl
      · cases hv : Table.get? entries ⟨piece⟩ with
        | none =>
            rw [hv] at hget
            rw [Option.map_eq_none_iff.mp hget]
        | some node =>
            rw [hv, Option.map_some, Option.map_eq_some_iff] at hget
            obtain ⟨node', hv', hown⟩ := hget
            rw [hv']
            cases node <;> cases node' <;> cases hown <;> rfl

/-- A piece leads where it led, unless it led to the file or behind it. -/
theorem Removed.move (h : Removed fs fs' names) (hw : fs.WellFormed)
    (hfile : fs.top.at? names = some (.file content)) (here : List RawText) (piece : List UInt8) :
    FileSystem.move fs'.top here piece = FileSystem.move fs.top here piece ∨
      FileSystem.move fs.top here piece = .onward names.reverse ∨
        FileSystem.move fs.top here piece = .failed .notDirectory := by
  cases hat : fs.top.at? here.reverse with
  | none => exact .inr (.inr (by rw [FileSystem.move, hat]))
  | some node =>
      cases node with
      | file inner => exact .inr (.inr (by rw [FileSystem.move, hat]))
      | link target => exact .inr (.inr (by rw [FileSystem.move, hat]))
      | directory entries =>
          have hhere : here.reverse ≠ names := by
            rintro rfl
            rw [hfile] at hat
            cases hat
          obtain ⟨entries', hat'⟩ := h.at?_directory hhere hat
          by_cases hname : here.reverse ++ [⟨piece⟩] = names
          · rw [← hname] at hfile
            have hentry := isEntryName_of_at? hw hfile
            have hmove := move_bytes hat hentry
            rw [at?_concat_of_directory hat] at hfile
            rw [hfile] at hmove
            refine .inr (.inl (hmove.trans ?_))
            rw [← hname, List.reverse_append, List.reverse_reverse]
            rfl
          · exact .inl (move_congr hat hat' (h.get? hname hat hat'))

/-- A pass comes to what it came to, unless it arrived at the file or failed. -/
theorem Removed.pass (h : Removed fs fs' names) (hw : fs.WellFormed)
    (hfile : fs.top.at? names = some (.file content)) (follow : Bool)
    (pieces : List (List UInt8)) :
    FileSystem.pass fs'.top follow here pieces = FileSystem.pass fs.top follow here pieces ∨
      FileSystem.pass fs.top follow here pieces = .arrived names.reverse ∨
        ∃ fault, FileSystem.pass fs.top follow here pieces = .failed fault := by
  induction pieces generalizing here with
  | nil => exact .inl rfl
  | cons piece rest ih =>
      rw [FileSystem.pass, FileSystem.pass]
      obtain hmove | hmove | hmove := h.move hw hfile here piece
      · rw [hmove]
        cases FileSystem.move fs.top here piece with
        | onward onto => exact ih
        | link name target => exact .inl rfl
        | failed fault => exact .inl rfl
      · rw [hmove]
        dsimp only
        cases rest with
        | nil => exact .inr (.inl rfl)
        | cons next rest =>
            refine .inr (.inr ⟨.notDirectory, ?_⟩)
            rw [FileSystem.pass, FileSystem.move, List.reverse_reverse, hfile]
      · exact .inr (.inr ⟨.notDirectory, by rw [hmove]⟩)

theorem Removed.pass_of_trace (h : Removed fs fs' names) (hw : fs.WellFormed)
    (hfile : fs.top.at? names = some (.file content)) {follow : Bool} {links : Nat}
    {pieces : List (List UInt8)} {found : List RawText} (hne : found ≠ names)
    (htrace : FileSystem.trace fs.top follow links here pieces = .ok found) :
    FileSystem.pass fs'.top follow here pieces = FileSystem.pass fs.top follow here pieces := by
  obtain hpass | hpass | ⟨fault, hpass⟩ := h.pass hw hfile follow pieces
  · exact hpass
  · rw [trace_of_arrived hpass, List.reverse_reverse] at htrace
    exact absurd (Except.ok.inj htrace).symm hne
  · rw [FileSystem.trace, hpass] at htrace
    cases htrace

/-- Everything but the file is found where it was. -/
theorem Removed.trace (h : Removed fs fs' names) (hw : fs.WellFormed)
    (hfile : fs.top.at? names = some (.file content)) {follow : Bool} {links : Nat}
    {pieces : List (List UInt8)} {found : List RawText} (hne : found ≠ names)
    (htrace : FileSystem.trace fs.top follow links here pieces = .ok found) :
    FileSystem.trace fs'.top follow links here pieces = .ok found := by
  induction links generalizing here pieces with
  | zero =>
      have hpass := h.pass_of_trace hw hfile hne htrace
      rw [FileSystem.trace] at htrace ⊢
      rw [hpass]
      exact htrace
  | succ links ih =>
      have hpass := h.pass_of_trace hw hfile hne htrace
      rw [FileSystem.trace] at htrace ⊢
      rw [hpass]
      cases hpassed : FileSystem.pass fs.top follow here pieces with
      | linked directory target rest =>
          rw [hpassed] at htrace
          exact ih htrace
      | arrived arrival =>
          rw [hpassed] at htrace
          exact htrace
      | failed fault =>
          rw [hpassed] at htrace
          exact htrace

/-! ## Deleting -/

/-- A file that is found is deleted. -/
theorem exists_delete (hw : fs.WellFormed) {p : Path} (hlocate : fs.locate p false = .ok names)
    (hfile : fs.top.at? names = some (.file content)) :
    ∃ fs', fs.delete p = .ok fs' ∧ fs'.WellFormed ∧ Removed fs fs' names := by
  cases names using List.reverseRecOn with
  | nil => cases hfile
  | append_singleton directory name =>
      have hat := hfile
      rw [Node.at?_append] at hat
      obtain ⟨node, hdirectory, hat⟩ := Option.bind_eq_some_iff.mp hat
      obtain ⟨entries, leaf, rfl, hget, hleaf⟩ := Node.at?_cons_eq_some_iff.mp hat
      cases hleaf
      obtain ⟨entries', hmodify, hw', hwithout⟩ :=
        Node.exists_modifyAt?_erase hw hdirectory hget rfl
      refine ⟨{ fs with root := entries' }, ?_, hw', ⟨hwithout, rfl⟩⟩
      rw [delete, hlocate]
      simp only [bind, Except.bind, hfile, List.getLast?_concat, List.dropLast_concat, hmodify]
      rfl

/-! ## Reading a file -/

variable {p : Path}

/-- A file that is no link is what is found when links are followed. -/
theorem find_of_file (h : fs.find p false = .ok (.file content)) :
    fs.find p true = .ok (.file content) := by
  obtain heq | ⟨target, hlink⟩ := @find_follow fs p
  · rw [heq, h]
  · rw [h] at hlink
    cases hlink

theorem isFile_of_find (h : fs.find p false = .ok (.file content)) : fs.isFile p = true := by
  rw [isFile, get?, find_of_file h]
  rfl

theorem readBytes_of_find (h : fs.find p false = .ok (.file content)) :
    fs.readBytes p = .ok content := by
  rw [readBytes, find_of_file h]
  rfl

theorem readText_of_text {text : String} (h : fs.find p false = .ok (.file content))
    (htext : String.fromUTF8? content = some text) : fs.readText p = .ok text := by
  rw [readText, readBytes_of_find h]
  simp only [bind, Except.bind, htext]
  rfl

theorem readText_of_notText (h : fs.find p false = .ok (.file content))
    (htext : String.fromUTF8? content = none) : fs.readText p = .error .notText := by
  rw [readText, readBytes_of_find h]
  simp only [bind, Except.bind, htext]
  rfl

/-! ## The entries of one directory after a removal -/

variable {directory : List RawText} {name other : RawText}

/-- What a removal leaves in the directory is found as before. -/
theorem Removed.find_entry (h : Removed fs fs' (directory ++ [name])) (hw : fs.WellFormed)
    (hw' : fs'.WellFormed) (hname : IsName other) (hne : other ≠ name) {removed : ByteArray}
    (hfile : fs.top.at? (directory ++ [name]) = some (.file removed))
    (hdirectory : FileSystem.trace fs.top true maxLinks [] (fs.lead p) = .ok directory)
    (hfind : fs.find (p.entry other) false = .ok (.file content)) :
    fs'.find (p.entry other) false = .ok (.file content) := by
  obtain ⟨names, hlocate, hat⟩ := find_eq_ok_iff.mp hfind
  obtain ⟨hnul, hshort, _, hsame, rfl, -⟩ := (locate_entry_iff hname hw).mp hlocate
  rw [hdirectory] at hsame
  cases hsame
  have hother : directory ++ [other] ≠ directory ++ [name] := by simpa using hne
  have hat' := h.at?_file hother hat
  refine find_eq_ok_iff.mpr ⟨directory ++ [other], ?_, hat'⟩
  refine (locate_entry_iff hname hw').mpr ⟨hnul, hshort, directory, ?_, rfl, _, hat'⟩
  rw [h.lead_eq]
  exact h.trace hw hfile (by simp) hdirectory

/-- What was removed is no file. -/
theorem Removed.isFile_entry (h : Removed fs fs' (directory ++ [name])) (hw : fs.WellFormed)
    (hw' : fs'.WellFormed) (hname : IsName name) {removed : ByteArray}
    (hfile : fs.top.at? (directory ++ [name]) = some (.file removed))
    (hdirectory : FileSystem.trace fs.top true maxLinks [] (fs.lead p) = .ok directory) :
    fs'.isFile (p.entry name) = false := by
  have hnothing : ∀ node, fs'.find (p.entry name) false ≠ .ok node := by
    intro node hnode
    obtain ⟨names, hlocate, hat⟩ := find_eq_ok_iff.mp hnode
    obtain ⟨-, -, _, hsame, rfl, -⟩ := (locate_entry_iff hname hw').mp hlocate
    rw [h.lead_eq, h.trace hw hfile (by simp) hdirectory] at hsame
    cases hsame
    rw [h.gone] at hat
    cases hat
  rw [isFile]
  cases hget : fs'.get? (p.entry name) with
  | none => rfl
  | some node =>
      have hfind := get?_eq_some_iff.mp hget
      obtain heq | ⟨target, hlink⟩ := @find_follow fs' (p.entry name)
      · exact absurd (heq.symm.trans hfind) (hnothing node)
      · exact absurd hlink (hnothing _)

end FileSystem

end BundleConfig
