import BundleConfig.Proofs.Table
import BundleConfig.Template
import Mathlib.Data.Set.List

/-!
# Filled templates

A template whose brackets pair up is a sequence of *pieces*: texts without brackets, and
placeholders around such texts.  Filling a placeholder goes through the text from the left and
never stops inside a piece: a placeholder is found only where a piece is that placeholder
(`Template.fill_ofPieces`).  A value without brackets gives a text in its place, so the pieces
of a template stay pieces all the way.

So it is the same to fill the placeholders one after the other or all at once, each with its
own value (`Template.render_atOnce`).
-/

namespace BundleConfig

namespace Text

variable {needle value : List Char}

/-! ## Replacing from the left -/

theorem replaceFrom_length (needle value skipped rest : List Char) :
    replaceFrom needle value skipped.length (skipped ++ rest) =
      replaceFrom needle value 0 rest := by
  induction skipped with
  | nil => rfl
  | cons c skipped ih => exact ih

/-- An occurrence at the front is replaced. -/
theorem replaceAll_append_self (hne : needle ≠ []) (value rest : List Char) :
    replaceAll needle value (needle ++ rest) = value ++ replaceAll needle value rest := by
  obtain ⟨c, tail, rfl⟩ := List.exists_cons_of_ne_nil hne
  have hstarts : (c :: tail).isPrefixOf (c :: tail ++ rest) = true :=
    List.isPrefixOf_iff_prefix.mpr (List.prefix_append _ rest)
  have hskip : replaceFrom (c :: tail) value tail.length (tail ++ rest) =
      replaceFrom (c :: tail) value 0 rest := replaceFrom_length _ _ tail rest
  rw [replaceAll, List.cons_append, replaceFrom, if_neg (by simp), ← List.cons_append,
    if_pos hstarts, List.length_cons, Nat.add_sub_cancel, hskip]
  rfl

/-- A character where no occurrence starts stays. -/
theorem replaceAll_cons {c : Char} {rest : List Char} (hne : needle ≠ [])
    (h : ¬ needle <+: c :: rest) (value : List Char) :
    replaceAll needle value (c :: rest) = c :: replaceAll needle value rest := by
  rw [replaceAll, replaceFrom, if_neg (by simpa using hne),
    if_neg (mt List.isPrefixOf_iff_prefix.mp h)]
  rfl

/-- Characters that start no occurrence stay. -/
theorem replaceAll_append {first : Char} {tail before : List Char} (h : first ∉ before)
    (value rest : List Char) :
    replaceAll (first :: tail) value (before ++ rest) =
      before ++ replaceAll (first :: tail) value rest := by
  induction before with
  | nil => rfl
  | cons c before ih =>
      have hnot : ¬ first :: tail <+: c :: (before ++ rest) := by
        rintro hstarts
        exact h (by simp [(List.cons_prefix_cons.mp hstarts).1])
      rw [List.cons_append, replaceAll_cons (List.cons_ne_nil _ _) hnot,
        ih (List.not_mem_of_not_mem_cons h), List.cons_append]

/-- Two texts that end at the first occurrence of a character are the same if one of them starts
the other. -/
theorem eq_of_append_singleton_prefix {c : Char} {before other rest : List Char}
    (hbefore : c ∉ before) (hother : c ∉ other) (h : before ++ [c] <+: other ++ c :: rest) :
    before = other := by
  induction before generalizing other with
  | nil =>
      cases other with
      | nil => rfl
      | cons d other => exact absurd (List.cons_prefix_cons.mp h).1 (by rintro rfl; simp at hother)
  | cons d before ih =>
      cases other with
      | nil => exact absurd (List.cons_prefix_cons.mp h).1 (by rintro rfl; simp at hbefore)
      | cons e other =>
          obtain ⟨rfl, hrest⟩ := List.cons_prefix_cons.mp h
          rw [ih (List.not_mem_of_not_mem_cons hbefore) (List.not_mem_of_not_mem_cons hother) hrest]

end Text

namespace Template

/-! ## Pieces -/

/-- A text without brackets. -/
structure Word where
  /-- The text. -/
  text : String
  /-- No bracket opens in it. -/
  noOpening : '[' ∉ text.toList
  /-- No bracket closes in it. -/
  noClosing : ']' ∉ text.toList
deriving DecidableEq

/-- The word of a text. -/
def word (text : String) (h : '[' ∉ text.toList ∧ ']' ∉ text.toList := by decide) : Word :=
  ⟨text, h.1, h.2⟩

/-- The placeholder around a word. -/
def Word.placeholder (w : Word) : String := "[" ++ w.text ++ "]"

/-- A piece of a template. -/
inductive Piece
  /-- A text. -/
  | text (w : Word)
  /-- A placeholder. -/
  | token (w : Word)

/-- The spelling of a piece. -/
def Piece.spelling : Piece → String
  | text w => w.text
  | token w => w.placeholder

/-- The template of some pieces. -/
def ofPieces (pieces : List Piece) : String := String.join (pieces.map Piece.spelling)

theorem Word.toList_placeholder (w : Word) :
    w.placeholder.toList = '[' :: (w.text.toList ++ [']']) := by
  rw [placeholder, String.toList_append, String.toList_append]
  rfl

theorem Word.eq_of_text {w u : Word} (h : w.text.toList = u.text.toList) : w = u := by
  cases w
  cases u
  cases String.toList_injective h
  rfl

theorem Word.placeholder_inj {w u : Word} : w.placeholder = u.placeholder ↔ w = u := by
  refine ⟨fun h => eq_of_text ?_, congrArg placeholder⟩
  have hlist := congrArg String.toList h
  rw [toList_placeholder, toList_placeholder] at hlist
  exact List.append_cancel_right (List.cons.inj hlist).2

theorem toList_ofPieces_cons (piece : Piece) (pieces : List Piece) :
    (ofPieces (piece :: pieces)).toList = piece.spelling.toList ++ (ofPieces pieces).toList := by
  rw [ofPieces, List.map_cons, String.join_cons, String.toList_append]
  rfl

/-! ## Filling one placeholder -/

/-- A piece after a placeholder was filled. -/
def Piece.filled (w value : Word) : Piece → Piece
  | text u => text u
  | token u => if u = w then text value else token u

theorem replaceAll_piece (w value : Word) (piece : Piece) (rest : List Char) :
    Text.replaceAll w.placeholder.toList value.text.toList (piece.spelling.toList ++ rest) =
      (piece.filled w value).spelling.toList ++
        Text.replaceAll w.placeholder.toList value.text.toList rest := by
  have hne : w.placeholder.toList ≠ [] := by
    rw [w.toList_placeholder]
    exact List.cons_ne_nil _ _
  cases piece with
  | text u =>
      rw [w.toList_placeholder]
      exact Text.replaceAll_append u.noOpening _ _
  | token u =>
      rw [Piece.filled]
      split
      next heq =>
        rw [Piece.spelling, heq]
        exact Text.replaceAll_append_self hne _ _
      next hnot =>
        have hother : ¬ w.placeholder.toList <+: u.placeholder.toList ++ rest := by
          rw [w.toList_placeholder, u.toList_placeholder, List.cons_append, List.append_assoc]
          intro hstarts
          have hinner := (List.cons_prefix_cons.mp hstarts).2
          exact hnot (Word.eq_of_text
            (Text.eq_of_append_singleton_prefix w.noClosing u.noClosing hinner)).symm
        have hclosed : '[' ∉ u.text.toList ++ [']'] := by
          rw [List.mem_append, List.mem_singleton]
          exact fun h => h.elim u.noOpening (by decide)
        rw [Piece.spelling, u.toList_placeholder, List.cons_append] at *
        rw [Text.replaceAll_cons hne hother, w.toList_placeholder, Text.replaceAll_append hclosed]
        rfl

/-- Filling a placeholder fills the pieces that are it. -/
theorem fill_ofPieces (w value : Word) (pieces : List Piece) :
    fill (ofPieces pieces).toList w.placeholder value.text =
      (ofPieces (pieces.map (Piece.filled w value))).toList := by
  induction pieces with
  | nil =>
      rw [fill, w.toList_placeholder]
      rfl
  | cons piece pieces ih =>
      rw [toList_ofPieces_cons, fill, replaceAll_piece, ← fill, ih, List.map_cons,
        toList_ofPieces_cons]

/-! ## Filling one after the other -/

/-- The word that fills a placeholder: that of its first entry. -/
def valueOf? (entries : List (Word × Word)) (w : Word) : Option Word :=
  (entries.find? fun entry => entry.1 = w).map Prod.snd

/-- A piece after all placeholders were filled at once. -/
def Piece.filledAll (entries : List (Word × Word)) : Piece → Piece
  | text u => text u
  | token u => ((valueOf? entries u).map text).getD (token u)

theorem Piece.filledAll_cons (w value : Word) (entries : List (Word × Word)) (piece : Piece) :
    (piece.filled w value).filledAll entries = piece.filledAll ((w, value) :: entries) := by
  cases piece with
  | text u => rfl
  | token u =>
      rw [filled]
      split
      next heq => simp [filledAll, valueOf?, heq]
      next hne =>
        have hne' : ¬ w = u := Ne.symm hne
        simp [filledAll, valueOf?, hne']

/-- To fill placeholders one after the other is to fill them all at once. -/
theorem foldl_fill_ofPieces (entries : List (Word × Word)) (pieces : List Piece) :
    (entries.map fun entry => (entry.1.placeholder, entry.2.text)).foldl
        (fun text entry => fill text entry.1 entry.2) (ofPieces pieces).toList =
      (ofPieces (pieces.map (Piece.filledAll entries))).toList := by
  induction entries generalizing pieces with
  | nil =>
      have hsame : pieces.map (Piece.filledAll []) = pieces := by
        refine (List.map_congr_left fun piece _ => ?_).trans pieces.map_id
        cases piece <;> rfl
      rw [hsame]
      rfl
  | cons entry entries ih =>
      rw [List.map_cons, List.foldl_cons, fill_ofPieces, ih, List.map_map]
      congr 2
      exact List.map_congr_left fun piece _ => Piece.filledAll_cons entry.1 entry.2 entries piece

/-! ## Rendering -/

/-- Values for placeholders, each a word. -/
structure AreWords (values : Table String) : Prop where
  /-- The names are placeholders. -/
  placeholders : ∀ name ∈ values.keys, ∃ w : Word, w.placeholder = name
  /-- No value has a bracket. -/
  words : ∀ value ∈ values.values, ∃ w : Word, w.text = value
  /-- No placeholder has two values. -/
  distinct : values.keys.Nodup

/-- What stands in the place of a piece: its value, a dummy for a standard placeholder without
one, or else itself. -/
def substituted (values : Table String) : Piece → String
  | .text w => w.text
  | .token w =>
      (values.get? w.placeholder).getD
        (if w.placeholder ∈ standardPlaceholders then dummyValue else w.placeholder)

theorem exists_placeholder_of_standard : ∀ name ∈ standardPlaceholders,
    ∃ w : Word, w.placeholder = name := by
  simp only [standardPlaceholders, List.forall_mem_cons]
  exact ⟨⟨word "name", rfl⟩, ⟨word "id", rfl⟩, ⟨word "hash", rfl⟩, ⟨word "chunkhash", rfl⟩,
    ⟨word "contenthash", rfl⟩, List.forall_mem_nil _⟩

/-- The pairs in the order in which they are filled in. -/
def pairsOf (values : Table String) : Table String :=
  (standardPlaceholders.filter fun name => !values.contains name).map (·, dummyValue) ++ values

theorem render_eq_foldl (template : String) (values : Table String) :
    render template values = String.ofList
      ((pairsOf values).foldl (fun text pair => fill text pair.1 pair.2) template.toList) := by
  rw [render, pairsOf, List.foldl_append, List.foldl_map]

/-- A standard placeholder without a value has the dummy. -/
theorem get?_pairsOf (values : Table String) (name : String) :
    (pairsOf values).get? name = (values.get? name).or
      (if name ∈ standardPlaceholders then some dummyValue else none) := by
  have hdummies : ∀ names : List String,
      Table.get? (names.map (·, dummyValue) ++ values) name =
        if name ∈ names then some dummyValue else values.get? name := by
    intro names
    induction names with
    | nil => rfl
    | cons first names ih =>
        rw [List.map_cons, List.cons_append, Table.get?_cons, ih]
        by_cases hfirst : first = name
        · simp [hfirst]
        · simp [hfirst, Ne.symm hfirst]
  rw [pairsOf, hdummies]
  cases hvalue : values.get? name <;> simp [Table.contains, hvalue]

/-- All pairs are a placeholder and a word. -/
theorem AreWords.exists_entries {values : Table String} (h : AreWords values) :
    ∃ entries : List (Word × Word),
      (entries.map fun entry => (entry.1.placeholder, entry.2.text)) = pairsOf values := by
  have hpairs : ∀ pair ∈ pairsOf values, ∃ entry : Word × Word,
      (entry.1.placeholder, entry.2.text) = pair := by
    rintro ⟨name, value⟩ hpair
    rcases List.mem_append.mp hpair with hdummy | hgiven
    · obtain ⟨name, hname, heq⟩ := List.mem_map.mp hdummy
      cases heq
      obtain ⟨w, rfl⟩ := exists_placeholder_of_standard name (List.mem_of_mem_filter hname)
      exact ⟨(w, word dummyValue), rfl⟩
    · obtain ⟨w, rfl⟩ := h.placeholders name (List.mem_map_of_mem hgiven)
      obtain ⟨u, rfl⟩ := h.words value (List.mem_map_of_mem hgiven)
      exact ⟨(w, u), rfl⟩
  exact (Set.ext_iff.mp (Set.range_list_map _) _).mpr hpairs

theorem map_valueOf? (entries : List (Word × Word)) (w : Word) :
    (valueOf? entries w).map Word.text =
      Table.get? (entries.map fun entry => (entry.1.placeholder, entry.2.text))
        w.placeholder := by
  induction entries with
  | nil => rfl
  | cons entry entries ih =>
      rw [List.map_cons, Table.get?_cons, ← ih, valueOf?, valueOf?, List.find?_cons]
      by_cases heq : entry.1 = w
      · simp [heq]
      · simp [heq, Word.placeholder_inj]

theorem spelling_filledAll {values : Table String} {entries : List (Word × Word)}
    (h : (entries.map fun entry => (entry.1.placeholder, entry.2.text)) = pairsOf values)
    (piece : Piece) : (piece.filledAll entries).spelling = substituted values piece := by
  cases piece with
  | text w => rfl
  | token w =>
      have hvalue := map_valueOf? entries w
      rw [h, get?_pairsOf] at hvalue
      rw [Piece.filledAll, substituted]
      cases hentry : valueOf? entries w <;> cases hgiven : values.get? w.placeholder <;>
        split <;> simp_all [Piece.spelling]

/-- The values are put in all at once: each placeholder gives way to its value, to a dummy, or
stays, whatever stands around it.  The order of the values does not matter. -/
theorem render_atOnce {values : Table String} (h : AreWords values) (pieces : List Piece) :
    render (ofPieces pieces) values = String.join (pieces.map (substituted values)) ∧
      ∀ others : Table String, others.Perm values →
        render (ofPieces pieces) others = render (ofPieces pieces) values := by
  have hrender : ∀ {values : Table String}, AreWords values →
      render (ofPieces pieces) values = String.join (pieces.map (substituted values)) := by
    intro values h
    obtain ⟨entries, hentries⟩ := h.exists_entries
    rw [render_eq_foldl, ← hentries, foldl_fill_ofPieces, String.ofList_toList, ofPieces,
      List.map_map]
    exact congrArg String.join (List.map_congr_left fun piece _ =>
      spelling_filledAll hentries piece)
  refine ⟨hrender h, fun others hperm => ?_⟩
  have hothers : AreWords others :=
    { placeholders := fun name hname => h.placeholders name ((hperm.map _).mem_iff.mp hname)
      words := fun value hvalue => h.words value ((hperm.map _).mem_iff.mp hvalue)
      distinct := (hperm.map _).nodup_iff.mpr h.distinct }
  have hsame : substituted others = substituted values := by
    funext piece
    cases piece with
    | text w => rfl
    | token w => rw [substituted, substituted, Table.get?_perm hperm h.distinct]
  rw [hrender hothers, hrender h, hsame]

/-- A template with a repeated, an unknown and an empty placeholder. -/
def scriptTemplate : List Piece :=
  [.text (word "js/"), .token (word "name"), .token (word "id"), .token (word "name"),
    .text (word "."), .token (word "ext"), .token (word ""), .token (word "hash")]

/-- Values, one of which spells the word of another placeholder. -/
def scriptValues : Table String := [("[ext]", "js"), ("[name]", "id"), ("[]", "?")]

theorem render_scriptTemplate :
    AreWords scriptValues ∧ scriptValues.reverse.Perm scriptValues ∧
      render "js/[name][id][name].[ext][][hash]" scriptValues =
        "js/id.__dummy__id.js?.__dummy__" ∧
      render "js/[name][id][name].[ext][][hash]" scriptValues.reverse =
        "js/id.__dummy__id.js?.__dummy__" := by
  have hwords : AreWords scriptValues :=
    { placeholders := by
        simp only [scriptValues, Table.keys_cons, List.forall_mem_cons]
        exact ⟨⟨word "ext", rfl⟩, ⟨word "name", rfl⟩, ⟨word "", rfl⟩, List.forall_mem_nil _⟩
      words := by
        simp only [scriptValues, Table.values, List.map_cons, List.forall_mem_cons]
        exact ⟨⟨word "js", rfl⟩, ⟨word "id", rfl⟩, ⟨word "?", rfl⟩, List.forall_mem_nil _⟩
      distinct := by decide }
  have hperm : scriptValues.reverse.Perm scriptValues := List.reverse_perm _
  have htemplate : ofPieces scriptTemplate = "js/[name][id][name].[ext][][hash]" := by decide
  have hresult : String.join (scriptTemplate.map (substituted scriptValues)) =
      "js/id.__dummy__id.js?.__dummy__" := by decide
  obtain ⟨hrender, horder⟩ := render_atOnce hwords scriptTemplate
  rw [htemplate] at hrender horder
  exact ⟨hwords, hperm, hrender.trans hresult,
    (horder _ hperm).trans (hrender.trans hresult)⟩

end Template

end BundleConfig
