import BundleConfig.Layer.DynamicFile
import BundleConfig.Proofs.FileSystem.Removal
import BundleConfig.Proofs.Path.Rendering

/-!
# Dynamic files, one after the other

The dynamic files of a context are numbered from zero on.  One call uses up the file with the
highest number: its settings or its fault are the answer, and the file is gone
(`OneShots.consume_text`).  The files below are as before, so the next call uses up the next one.

A file that is no text is read with a fault and stays (`OneShots.consume_notText`).  So the calls
use up the texts above it in turn and then have the same fault forever
(`OneShots.used_in_turn`).  Without such a file the calls use up every file and then find none.
-/

namespace BundleConfig

namespace DynamicFile

/-! ## Names of the files -/

/-- The name of the file of a number. -/
def nameOf (number : Nat) : String := nameStart ++ toString number ++ ".json"

theorem nameOf_injective {i j : Nat} (h : nameOf i = nameOf j) : i = j := by
  have hchars := congrArg String.toList h
  simp only [nameOf, String.toList_append, Nat.toString_eq_ofList_toDigits,
    String.toList_ofList] at hchars
  have hdigits := List.append_cancel_left (List.append_cancel_right hchars)
  calc
    i = Nat.ofDigitChars 10 (Nat.toDigits 10 i) 0 := Nat.ofDigitChars_ten_toDigits.symm
    _ = Nat.ofDigitChars 10 (Nat.toDigits 10 j) 0 := by rw [hdigits]
    _ = j := Nat.ofDigitChars_ten_toDigits

theorem isName_nameOf (number : Nat) : IsName (nameOf number) := by
  have hchars : (nameOf number).toList =
      nameStart.toList ++ Nat.toDigits 10 number ++ ".json".toList := by
    rw [nameOf, String.toList_append, String.toList_append, Nat.toString_eq_ofList_toDigits,
      String.toList_ofList]
  have hlong : ∀ {text : String}, text.toList.length ≤ 2 → nameOf number ≠ text := by
    rintro text htext rfl
    rw [hchars] at htext
    simp [nameStart] at htext
  refine isName_ofText_iff.mpr ⟨hlong (by decide), hlong (by decide), hlong (by decide), ?_⟩
  rw [hchars]
  simp only [List.mem_append, not_or]
  refine ⟨⟨by decide, fun hmem => ?_⟩, by decide⟩
  have hdigit := Nat.isDigit_of_mem_toDigits (by decide) (by decide) hmem
  cases hdigit

/-! ## The files of a context -/

/-- The first numbers of a context have files with the contents, and the next number has none. -/
structure OneShots (fs : FileSystem) (context : Path) (contents : List ByteArray) : Prop where
  wellFormed : fs.WellFormed
  files : ∀ i content, contents[i]? = some content →
    fs.find (numbered context i) false = .ok (.file content)
  next : fs.isFile (numbered context contents.length) = false

variable {fs : FileSystem} {context : Path} {contents : List ByteArray} {content : ByteArray}

/-- The files stand in one directory under their names. -/
theorem OneShots.exists_directory (h : OneShots fs context contents) (hne : contents ≠ []) :
    ∃ directory,
      FileSystem.trace fs.top true FileSystem.maxLinks [] (fs.lead context) = .ok directory ∧
      ∀ i content, contents[i]? = some content →
        fs.locate (numbered context i) false = .ok (directory ++ [RawText.ofText (nameOf i)]) ∧
          fs.top.at? (directory ++ [RawText.ofText (nameOf i)]) = some (.file content) := by
  have hentry : ∀ i content, contents[i]? = some content → ∃ directory,
      FileSystem.trace fs.top true FileSystem.maxLinks [] (fs.lead context) = .ok directory ∧
        fs.locate (numbered context i) false = .ok (directory ++ [RawText.ofText (nameOf i)]) ∧
          fs.top.at? (directory ++ [RawText.ofText (nameOf i)]) = some (.file content) := by
    intro i content hi
    obtain ⟨names, hlocate, hat⟩ := FileSystem.find_eq_ok_iff.mp (h.files i content hi)
    obtain ⟨-, -, directory, hdirectory, rfl, -⟩ :=
      (FileSystem.locate_entry_iff (isName_nameOf i) h.wellFormed).mp hlocate
    exact ⟨directory, hdirectory, hlocate, hat⟩
  obtain ⟨first, rest, rfl⟩ := List.exists_cons_of_ne_nil hne
  obtain ⟨directory, hdirectory, -⟩ := hentry 0 first rfl
  refine ⟨directory, hdirectory, fun i content hi => ?_⟩
  obtain ⟨directory', hdirectory', hplace⟩ := hentry i content hi
  rw [hdirectory] at hdirectory'
  cases hdirectory'
  exact hplace

/-- The directory has an entry for each of the files. -/
theorem OneShots.length_le (h : OneShots fs context contents) :
    contents.length ≤ ((fs.list? (context.entry ".")).getD []).length := by
  by_cases hne : contents = []
  · rw [hne]
    exact Nat.zero_le _
  obtain ⟨directory, hdirectory, hplaces⟩ := h.exists_directory hne
  have hplace : ∀ i < contents.length, ∃ content,
      fs.locate (numbered context i) false = .ok (directory ++ [RawText.ofText (nameOf i)]) ∧
        fs.top.at? (directory ++ [RawText.ofText (nameOf i)]) = some (.file content) :=
    fun i hi => ⟨_, hplaces i _ (List.getElem?_eq_getElem hi)⟩
  obtain ⟨first, hlocate, hfirst⟩ := hplace 0 (List.length_pos_iff.mpr hne)
  obtain ⟨hnul, hshort, -⟩ :=
    (FileSystem.locate_entry_iff (isName_nameOf 0) h.wellFormed).mp hlocate
  rw [Node.at?_append] at hfirst
  obtain ⟨node, hnode, hfirst⟩ := Option.bind_eq_some_iff.mp hfirst
  obtain ⟨entries, -, rfl, -, -⟩ := Node.at?_cons_eq_some_iff.mp hfirst
  have hlist : ((fs.list? (context.entry ".")).getD []).length = (Table.keys entries).length := by
    rw [FileSystem.list?,
      FileSystem.get?_entry_here (isName_nameOf 0) hnul hshort hdirectory hnode]
    simp [Node.entries?, FileSystem.sorted, Table.keys]
  have hnames : (List.range contents.length).map (fun i => RawText.ofText (nameOf i)) ⊆
      Table.keys entries := by
    intro name hname
    obtain ⟨i, hi, rfl⟩ := List.mem_map.mp hname
    obtain ⟨content, -, hat⟩ := hplace i (List.mem_range.mp hi)
    rw [FileSystem.at?_concat_of_directory hnode] at hat
    exact List.mem_map_of_mem (Table.mem_of_get? hat)
  have hnodup : ((List.range contents.length).map fun i => RawText.ofText (nameOf i)).Nodup :=
    List.nodup_range.map fun _ _ hsame => nameOf_injective (RawText.ofText_injective hsame)
  calc
    contents.length = ((List.range contents.length).map _).length := by simp
    _ ≤ (Table.keys entries).length := hnodup.length_le_of_subset hnames
    _ = _ := hlist.symm

/-- The files without a gap are those up to the first number without one. -/
theorem consecutive_eq {start stop : Nat} (hle : start ≤ stop)
    (hfiles : ∀ i, start ≤ i → i < stop → fs.isFile (numbered context i) = true)
    (hstop : fs.isFile (numbered context stop) = false) {count : Nat}
    (hcount : stop ≤ start + count) :
    consecutive fs context start count =
      (List.range' start (stop - start)).map (numbered context) := by
  induction count generalizing start with
  | zero =>
      have hnone : stop - start = 0 := by omega
      rw [consecutive, hnone]
      rfl
  | succ count ih =>
      rw [consecutive]
      obtain rfl | hlt := Nat.eq_or_lt_of_le hle
      · rw [if_neg (by rw [hstop]; exact Bool.false_ne_true), Nat.sub_self]
        rfl
      · have hmore : stop - start = stop - (start + 1) + 1 := by omega
        rw [if_pos (hfiles start (Nat.le_refl start) hlt), hmore, List.range'_succ, List.map_cons,
          ih hlt (fun i hi => hfiles i (by omega)) (by omega)]

theorem OneShots.find?_eq (h : OneShots fs context contents) :
    find? fs context = if contents.length = 0 then none
      else some (numbered context (contents.length - 1)) := by
  have hfiles : ∀ i, 0 ≤ i → i < contents.length → fs.isFile (numbered context i) = true :=
    fun i _ hi => FileSystem.isFile_of_find (h.files i _ (List.getElem?_eq_getElem hi))
  rw [find?, consecutive_eq (Nat.zero_le _) hfiles h.next (by rw [Nat.zero_add]; exact h.length_le),
    List.getLast?_map, List.getLast?_range', Nat.sub_zero, Nat.zero_add]
  split <;> rfl

/-! ## One call -/

theorem OneShots.consume_nil (h : OneShots fs context []) :
    consume fs context = (fs, .ok none) := by
  have hnone := h.find?_eq
  rw [List.length_nil, if_pos rfl] at hnone
  unfold consume
  simp only [hnone]

/-- What a call answers that looks at a file with a content: the settings it is, or a fault. -/
inductive Answers (p : Path) (content : ByteArray) : Except ConfigError (Option Json) → Prop
  | settings {text : String} {entries : List (String × Json)}
      (htext : String.fromUTF8? content = some text)
      (hread : Json.read text = .ok (.object entries)) :
      Answers p content (.ok (some (.object entries)))
  | fault {problem : DynamicProblem}
      (hno : ∀ text entries, String.fromUTF8? content = some text →
        Json.read text ≠ .ok (.object entries)) :
      Answers p content (.error (.dynamicFile p problem))

theorem answers_parse {p : Path} {text : String} (htext : String.fromUTF8? content = some text) :
    Answers p content ((parse p text).map some) := by
  have hsame : ∀ other, String.fromUTF8? content = some other → other = text := by
    intro other hother
    rw [htext] at hother
    exact (Option.some.inj hother).symm
  rw [parse]
  cases hread : Json.read text with
  | error fault =>
      refine .fault fun other entries hother => ?_
      rw [hsame other hother, hread]
      nofun
  | ok v =>
      cases v with
      | object entries => exact .settings htext hread
      | _ =>
          refine .fault fun other entries hother => ?_
          rw [hsame other hother, hread]
          nofun

theorem OneShots.find?_concat (h : OneShots fs context (contents ++ [content])) :
    find? fs context = some (numbered context contents.length) := by
  rw [h.find?_eq, List.length_append, List.length_singleton, if_neg (Nat.succ_ne_zero _),
    Nat.add_sub_cancel]

theorem OneShots.find_last (h : OneShots fs context (contents ++ [content])) :
    fs.find (numbered context contents.length) false = .ok (.file content) :=
  h.files _ content List.getElem?_concat_length

/-- A call uses up the file with the highest number, if it is a text. -/
theorem OneShots.consume_text (h : OneShots fs context (contents ++ [content])) {text : String}
    (htext : String.fromUTF8? content = some text) :
    ∃ fs', consume fs context = (fs', (parse (numbered context contents.length) text).map some) ∧
      OneShots fs' context contents ∧
        ∃ names, fs.locate (numbered context contents.length) false = .ok names ∧
          fs.Removed fs' names := by
  obtain ⟨directory, hdirectory, hplaces⟩ :=
    h.exists_directory (List.append_ne_nil_of_right_ne_nil _ (List.cons_ne_nil _ _))
  obtain ⟨hlocate, hfile⟩ := hplaces _ content List.getElem?_concat_length
  obtain ⟨fs', hdelete, hw', hremoved⟩ := FileSystem.exists_delete h.wellFormed hlocate hfile
  refine ⟨fs', ?_, ⟨hw', ?_, ?_⟩, _, hlocate, hremoved⟩
  · unfold consume
    simp only [h.find?_concat, FileSystem.readText_of_text h.find_last htext, hdelete]
  · intro i content' hi
    obtain ⟨hlt, -⟩ := List.getElem?_eq_some_iff.mp hi
    have hne : nameOf i ≠ nameOf contents.length := fun heq =>
      Nat.ne_of_lt hlt (nameOf_injective heq)
    refine hremoved.find_entry h.wellFormed hw' (isName_nameOf i)
      (RawText.ofText_injective.ne hne) hfile hdirectory ?_
    exact h.files i content' ((List.getElem?_append_left hlt).trans hi)
  · exact hremoved.isFile_entry h.wellFormed hw' (isName_nameOf _) hfile hdirectory

/-- A call leaves the file with the highest number, if it is no text. -/
theorem OneShots.consume_notText (h : OneShots fs context (contents ++ [content]))
    (htext : String.fromUTF8? content = none) :
    consume fs context =
      (fs, .error (.dynamicFile (numbered context contents.length) (.unreadable .notText))) := by
  unfold consume
  simp only [h.find?_concat, FileSystem.readText_of_notText h.find_last htext]

/-! ## Call after call -/

/-- The file system after some calls. -/
def after (fs : FileSystem) (context : Path) (calls : Nat) : FileSystem :=
  (fun fs => (consume fs context).1)^[calls] fs

theorem after_succ (fs : FileSystem) (context : Path) (calls : Nat) :
    after fs context (calls + 1) = (consume (after fs context calls) context).1 :=
  Function.iterate_succ_apply' _ calls fs

/-- Once a call changes nothing, no later call does. -/
theorem after_of_fixed {calls : Nat}
    (h : (consume (after fs context calls) context).1 = after fs context calls) {later : Nat}
    (hle : calls ≤ later) : after fs context later = after fs context calls := by
  induction later, hle using Nat.le_induction with
  | base => rfl
  | succ later _ ih => rw [after_succ, ih, h]

/-- The calls use up the texts above in turn and leave the files below. -/
structure UsedInTurn (fs : FileSystem) (context : Path) (below texts : List ByteArray) :
    Prop where
  /-- A call answers with the file that is the highest then, and takes it away. -/
  used : ∀ k content, texts.reverse[k]? = some content →
    Answers (numbered context (below.length + (texts.length - 1 - k))) content
        (consume (after fs context k) context).2 ∧
      ∃ names, (after fs context k).locate
          (numbered context (below.length + (texts.length - 1 - k))) false = .ok names ∧
        (after fs context k).Removed (after fs context (k + 1)) names
  /-- After that nothing changes. -/
  kept : ∀ k, texts.length ≤ k → after fs context (k + 1) = after fs context k
  /-- If no file is left, the answer is that there is none. -/
  none : below = [] → ∀ k, texts.length ≤ k → (consume (after fs context k) context).2 = .ok none
  /-- If one is left, the answer is that it cannot be read. -/
  stuck : below ≠ [] → ∀ k, texts.length ≤ k → (consume (after fs context k) context).2 =
    .error (.dynamicFile (numbered context (below.length - 1)) (.unreadable .notText))

variable {below texts : List ByteArray}

theorem take_append_getElem (below : List ByteArray) {k : Nat} (hk : k < texts.length) :
    below ++ texts.take (texts.length - k) =
      below ++ texts.take (texts.length - 1 - k) ++ [texts[texts.length - 1 - k]] := by
  have hlast : texts.length - k = texts.length - 1 - k + 1 := by omega
  rw [hlast, List.take_succ_eq_append_getElem (by omega), List.append_assoc]

/-- Each call leaves one text less. -/
theorem OneShots.after_calls (h : OneShots fs context (below ++ texts))
    (htexts : ∀ content ∈ texts, (String.fromUTF8? content).isSome = true) {k : Nat}
    (hk : k ≤ texts.length) :
    OneShots (after fs context k) context (below ++ texts.take (texts.length - k)) := by
  induction k with
  | zero =>
      rw [Nat.sub_zero, List.take_length]
      exact h
  | succ k ih =>
      have hbefore := ih (Nat.le_of_succ_le hk)
      rw [take_append_getElem below hk] at hbefore
      obtain ⟨text, htext⟩ := Option.isSome_iff_exists.mp
        (htexts (texts[texts.length - 1 - k]) (List.getElem_mem _))
      obtain ⟨fs', hconsume, hafter, -⟩ := hbefore.consume_text htext
      have hless : texts.length - (k + 1) = texts.length - 1 - k := by omega
      rw [after_succ, hconsume, hless]
      exact hafter

/-- The calls use up every text that no other file is above, one after the other. -/
theorem OneShots.used_in_turn (h : OneShots fs context (below ++ texts))
    (htexts : ∀ content ∈ texts, (String.fromUTF8? content).isSome = true)
    (hbelow : ∀ content ∈ below.getLast?, String.fromUTF8? content = none) :
    UsedInTurn fs context below texts := by
  have hend := h.after_calls htexts (Nat.le_refl texts.length)
  rw [Nat.sub_self, List.take_zero, List.append_nil] at hend
  have hanswer : ∃ answer, consume (after fs context texts.length) context =
      (after fs context texts.length, answer) ∧ (below = [] → answer = .ok none) ∧
        (below ≠ [] → answer = .error (.dynamicFile (numbered context (below.length - 1))
          (.unreadable .notText))) := by
    cases below using List.reverseRecOn with
    | nil => exact ⟨_, hend.consume_nil, fun _ => rfl, fun hne => absurd rfl hne⟩
    | append_singleton files last =>
        have hlast := hbelow last (by rw [List.getLast?_concat]; rfl)
        refine ⟨_, hend.consume_notText hlast, fun hnil => ?_, fun _ => ?_⟩
        · exact absurd hnil (List.append_ne_nil_of_right_ne_nil _ (List.cons_ne_nil _ _))
        · rw [List.length_append, List.length_singleton, Nat.add_sub_cancel]
  obtain ⟨answer, hconsume, hnone, hstuck⟩ := hanswer
  have hfixed : ∀ k, texts.length ≤ k → after fs context k = after fs context texts.length :=
    fun k hk => after_of_fixed (by rw [hconsume]) hk
  constructor
  case used =>
    intro k content hk
    obtain ⟨hlt, hcontent⟩ := List.getElem?_eq_some_iff.mp hk
    rw [List.length_reverse] at hlt
    rw [List.getElem_reverse] at hcontent
    have hbefore := h.after_calls htexts (Nat.le_of_lt hlt)
    rw [take_append_getElem below hlt, hcontent] at hbefore
    obtain ⟨text, htext⟩ := Option.isSome_iff_exists.mp
      (htexts content (hcontent ▸ List.getElem_mem _))
    obtain ⟨fs', hconsume, -, names, hlocate, hremoved⟩ := hbefore.consume_text htext
    have hnumber : (below ++ texts.take (texts.length - 1 - k)).length =
        below.length + (texts.length - 1 - k) := by
      rw [List.length_append, List.length_take]
      omega
    rw [hnumber] at hconsume hlocate
    rw [after_succ, hconsume]
    exact ⟨answers_parse htext, names, hlocate, hremoved⟩
  case kept =>
    intro k hk
    rw [hfixed k hk, hfixed (k + 1) (Nat.le_succ_of_le hk)]
  case none =>
    intro hnil k hk
    rw [hfixed k hk, hconsume, hnone hnil]
  case stuck =>
    intro hne k hk
    rw [hfixed k hk, hconsume, hstuck hne]

/-- A root directory with files in it. -/
def flat (files : List (RawText × ByteArray)) : FileSystem where
  root := Table.mapValues .file files
  workingDirectory := ⟨"/"⟩

theorem wellFormed_flat {files : List (RawText × ByteArray)} (hkeys : (Table.keys files).Nodup)
    (hnames : ∀ name ∈ Table.keys files, IsEntryName name) : (flat files).WellFormed := by
  refine .directory ?_ ?_ ?_
  · rw [flat, Table.keys_mapValues]
    exact hkeys
  · rintro ⟨name, node⟩ hmem
    obtain ⟨content, hmem, -⟩ := Table.mem_mapValues.mp hmem
    exact hnames name (List.mem_map_of_mem hmem)
  · rintro ⟨name, node⟩ hmem
    obtain ⟨content, -, rfl⟩ := Table.mem_mapValues.mp hmem
    exact .file content

/-- A file that is no text below a file that is no JSON and one with settings. -/
def mixedFiles : FileSystem :=
  flat [("package.json", .empty), (".dynamicConfiguration-0.json", ⟨#[255]⟩),
    (".dynamicConfiguration-1.json", "[".toUTF8), (".dynamicConfiguration-2.json", "{}".toUTF8)]

theorem used_in_turn_mixedFiles :
    OneShots mixedFiles ⟨"/"⟩ ([⟨#[255]⟩] ++ ["[".toUTF8, "{}".toUTF8]) ∧
      (∀ content ∈ ["[".toUTF8, "{}".toUTF8], (String.fromUTF8? content).isSome = true) ∧
      (∀ content ∈ [(⟨#[255]⟩ : ByteArray)].getLast?, String.fromUTF8? content = none) ∧
      UsedInTurn mixedFiles ⟨"/"⟩ [⟨#[255]⟩] ["[".toUTF8, "{}".toUTF8] := by
  have hfiles : OneShots mixedFiles ⟨"/"⟩ ([⟨#[255]⟩] ++ ["[".toUTF8, "{}".toUTF8]) := by
    refine ⟨wellFormed_flat (by decide) (by decide), ?_, by decide +kernel⟩
    intro i content hi
    rw [FileSystem.find_eq_ok_iff]
    rcases i with _ | _ | _ | i
    · cases hi
      exact ⟨[".dynamicConfiguration-0.json"], by decide +kernel, rfl⟩
    · cases hi
      exact ⟨[".dynamicConfiguration-1.json"], by decide +kernel, rfl⟩
    · cases hi
      exact ⟨[".dynamicConfiguration-2.json"], by decide +kernel, rfl⟩
    · cases hi
  have htexts : ∀ content ∈ ["[".toUTF8, "{}".toUTF8],
      (String.fromUTF8? content).isSome = true := by
    decide +kernel
  have hbelow : ∀ content ∈ [(⟨#[255]⟩ : ByteArray)].getLast?,
      String.fromUTF8? content = none := by
    decide +kernel
  exact ⟨hfiles, htexts, hbelow, hfiles.used_in_turn htexts hbelow⟩

/-- One file that is no text. -/
def garbledFile : FileSystem := flat [(".dynamicConfiguration-0.json", ⟨#[255]⟩)]

/-- A call answers with a fault of this file and leaves it, so the next call finds it again. -/
theorem consume_garbledFile :
    OneShots garbledFile ⟨"/"⟩ [⟨#[255]⟩] ∧
      consume garbledFile ⟨"/"⟩ =
        (garbledFile, .error (.dynamicFile (numbered ⟨"/"⟩ 0) (.unreadable .notText))) ∧
      garbledFile.isFile (numbered ⟨"/"⟩ 0) = true := by
  have hfind : garbledFile.find (numbered ⟨"/"⟩ 0) false = .ok (.file ⟨#[255]⟩) :=
    FileSystem.find_eq_ok_iff.mpr ⟨[".dynamicConfiguration-0.json"], by decide +kernel, rfl⟩
  have hfiles : OneShots garbledFile ⟨"/"⟩ ([] ++ [⟨#[255]⟩]) := by
    refine ⟨wellFormed_flat (by decide) (by decide), ?_, by decide +kernel⟩
    intro i content hi
    rcases i with _ | i
    · cases hi
      exact hfind
    · cases hi
  exact ⟨hfiles, hfiles.consume_notText (by decide +kernel), FileSystem.isFile_of_find hfind⟩

end DynamicFile

end BundleConfig
