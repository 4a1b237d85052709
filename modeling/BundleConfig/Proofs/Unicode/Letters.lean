import BundleConfig.Text.Basic
import BundleConfig.Unicode.Letter

/-!
# Blanks are no letters

No blank is alphabetic (`Unicode.isAlphabetic_of_isBlank`), so no name starts with one.

The alphabetic characters are a union of tables.  A union has no code that none of its parts
has (`has_union`), so it is enough to go over the ranges of each table once and to see that
they stay apart from the blanks.  In the table of the categories a run of characters is known
by its length only, and the sweep over it adds the lengths up.
-/

namespace BundleConfig

namespace Unicode

/-! ## Codes of ranges -/

/-- One of the ranges has the code. -/
def Has (ranges : List CodeRange) (code : Nat) : Prop :=
  ∃ r ∈ ranges, r.first ≤ code ∧ code ≤ r.last

variable {r s : CodeRange} {ranges more : List CodeRange} {code start : Nat}

@[simp] theorem not_has_nil : ¬ Has [] code := by
  simp [Has]

@[simp] theorem has_cons :
    Has (r :: ranges) code ↔ (r.first ≤ code ∧ code ≤ r.last) ∨ Has ranges code := by
  simp [Has]

theorem has_append : Has (ranges ++ more) code ↔ Has ranges code ∨ Has more code := by
  simp [Has, or_and_right, exists_or]

theorem has_of_reaches (h : CharSet.reaches ranges code = true) : Has ranges code := by
  induction ranges with
  | nil => cases h
  | cons r rest ih =>
      rw [CharSet.reaches] at h
      split at h
      case isTrue => cases h
      case isFalse hfirst =>
        rw [Bool.or_eq_true, decide_eq_true_eq] at h
        exact has_cons.mpr (h.imp (fun hlast => ⟨Nat.le_of_not_lt hfirst, hlast⟩) ih)

/-- Ranges that are joined overlap or touch. -/
theorem has_of_joinRange (h : Has (joinRange r ranges) code) : Has (r :: ranges) code := by
  induction ranges generalizing r with
  | nil => exact h
  | cons s rest ih =>
      rw [joinRange] at h
      split at h
      case isTrue htouch =>
        rcases has_cons.mp (ih h) with ⟨hfirst, hlast⟩ | hrest
        · dsimp only at hfirst hlast
          simp only [has_cons]
          omega
        · simp [hrest]
      case isFalse =>
        exact has_cons.mpr ((has_cons.mp h).imp_right ih)

theorem has_of_joinRanges (h : Has (joinRanges ranges) code) : Has ranges code := by
  cases ranges with
  | nil => exact h
  | cons r rest => exact has_of_joinRange h

theorem has_of_ofRanges (h : Has (CharSet.ofRanges ranges).ranges code) : Has ranges code := by
  obtain ⟨r, hr, hcode⟩ := has_of_joinRanges h
  exact ⟨r, List.mem_mergeSort.mp hr, hcode⟩

theorem has_union {a b : CharSet} (h : Has (a.union b).ranges code) :
    Has a.ranges code ∨ Has b.ranges code :=
  has_append.mp (has_of_ofRanges h)

theorem has_unions {sets : List CharSet} (h : Has (CharSet.unions sets).ranges code) :
    ∃ s ∈ sets, Has s.ranges code := by
  obtain ⟨r, hr, hcode⟩ := has_of_ofRanges h
  obtain ⟨s, hs, hr⟩ := List.mem_flatMap.mp hr
  exact ⟨s, hs, r, hr, hcode⟩

/-! ## Blanks -/

/-- The blanks that are no ASCII characters. -/
def wideBlanks : List CodeRange :=
  [⟨0x85, 0x85⟩, ⟨0xA0, 0xA0⟩, ⟨0x1680, 0x1680⟩, ⟨0x2000, 0x200A⟩, ⟨0x2028, 0x2029⟩,
    ⟨0x202F, 0x202F⟩, ⟨0x205F, 0x205F⟩, ⟨0x3000, 0x3000⟩]

theorem has_wideBlanks {c : Char} (h : Text.isBlank c = true) (hwide : 128 ≤ c.toNat) :
    Has wideBlanks c.toNat := by
  simp only [Text.isBlank, Bool.or_eq_true, Bool.and_eq_true, decide_eq_true_eq, beq_iff_eq] at h
  simp only [wideBlanks, has_cons, not_has_nil]
  omega

/-- The range has no blank but ASCII characters. -/
def isClear (r : CodeRange) : Bool :=
  wideBlanks.all fun blank => r.last < blank.first || blank.last < r.first

/-- The ranges have no blank but ASCII characters. -/
def Clear (ranges : List CodeRange) : Prop := ∀ code, Has wideBlanks code → ¬ Has ranges code

theorem clear_of_all (h : ∀ r ∈ ranges, isClear r = true) : Clear ranges := by
  rintro code ⟨blank, hmem, hcode⟩ ⟨r, hr, hfirst, hlast⟩
  have hapart := List.all_eq_true.mp (h r hr) blank hmem
  simp only [Bool.or_eq_true, decide_eq_true_eq] at hapart
  omega

theorem clear_union {a b : CharSet} (ha : Clear a.ranges) (hb : Clear b.ranges) :
    Clear (a.union b).ranges := fun code hblank h =>
  (has_union h).elim (ha code hblank) (hb code hblank)

theorem clear_unions {sets : List CharSet} (h : ∀ s ∈ sets, Clear s.ranges) :
    Clear (CharSet.unions sets).ranges := by
  intro code hblank hcode
  obtain ⟨s, hs, hcode⟩ := has_unions hcode
  exact h s hs code hblank hcode

/-! ## Tables

Rows are spelled out in letters before a table is evaluated, one row at a time: a written text is
its letters by definition, while taking it apart is a long computation. -/

section

variable {rows : List String} {letters : List (List Char)} {cs : List Char}

theorem spelled_nil : [].map String.toList = [] := rfl

theorem spelled_cons (h : rows.map String.toList = letters) :
    (String.ofList cs :: rows).map String.toList = cs :: letters := by
  rw [List.map_cons, String.toList_ofList, h]

theorem tableWords_of_spelled (h : rows.map String.toList = letters) :
    tableWords rows = letters.flatMap (rowWords []) := by
  rw [tableWords, ← h, List.flatMap_map]

theorem clear_rangeTable (h : rows.map String.toList = letters)
    (hclear : ((letters.flatMap (rowWords [])).all fun word => isClear (wordRange word)) = true) :
    Clear (rangeTable rows).ranges := by
  refine clear_of_all fun r hr => ?_
  obtain ⟨word, hword, rfl⟩ := List.mem_map.mp hr
  rw [tableWords_of_spelled h] at hword
  exact List.all_eq_true.mp hclear word hword

/-- The sweep over the words for runs, from the code `start` on: the runs of the chosen names
have no blank but ASCII characters.  Behind the last blank, it ends. -/
def sweep (chosen : List (List Char)) : (start : Nat) → List (List Char) → Bool
  | _, [] => true
  | start, word :: rest =>
      let stop := start + Text.digitsValue (word.dropWhile Char.isAlpha)
      0x3000 < start ||
        (!chosen.contains (word.takeWhile Char.isAlpha) || isClear ⟨start, stop - 1⟩) &&
          sweep chosen stop rest

theorem contains_ofList (names : List String) (cs : List Char) :
    names.contains (String.ofList cs) = (names.map String.toList).contains cs := by
  rw [Bool.eq_iff_iff, List.contains_iff_mem, List.contains_iff_mem, List.mem_map]
  constructor
  · intro h
    exact ⟨_, h, String.toList_ofList⟩
  · rintro ⟨name, hname, rfl⟩
    rwa [String.ofList_toList]

/-- Runs follow each other. -/
theorem start_le_first {chosen : String → Bool} {runs : List (String × Nat)} :
    ∀ r ∈ runRanges chosen start runs, start ≤ r.first := by
  induction runs generalizing start with
  | nil => nofun
  | cons run rest ih =>
      obtain ⟨name, length⟩ := run
      intro r hr
      rw [runRanges] at hr
      split at hr
      case isTrue =>
        rcases List.mem_cons.mp hr with rfl | hr
        · exact Nat.le_refl _
        · exact Nat.le_trans (Nat.le_add_right _ _) (ih r hr)
      case isFalse => exact Nat.le_trans (Nat.le_add_right _ _) (ih r hr)

theorem isClear_of_late (h : 0x3000 < r.first) : isClear r = true := by
  have hlate : ∀ blank ∈ wideBlanks, blank.last ≤ 0x3000 := by decide
  refine List.all_eq_true.mpr fun blank hblank => ?_
  have := hlate blank hblank
  simp only [Bool.or_eq_true, decide_eq_true_eq]
  omega

theorem isClear_of_sweep {names : List String} {words : List (List Char)}
    (h : sweep (names.map String.toList) start words = true) :
    ∀ r ∈ runRanges names.contains start (words.map wordRun), isClear r = true := by
  induction words generalizing start with
  | nil => nofun
  | cons word rest ih =>
      intro r hr
      rw [sweep, Bool.or_eq_true, Bool.and_eq_true, decide_eq_true_eq] at h
      rcases h with hlate | ⟨hrun, hrest⟩
      · exact isClear_of_late (Nat.lt_of_lt_of_le hlate (start_le_first r hr))
      rw [List.map_cons, wordRun, runRanges, contains_ofList] at hr
      split at hr
      case isTrue hchosen =>
        rw [hchosen] at hrun
        rcases List.mem_cons.mp hr with rfl | hr
        · exact hrun
        · exact ih hrest r hr
      case isFalse => exact ih hrest r hr

theorem clear_categories {names : List String} {chosen : List (List Char)}
    (hnames : names.map String.toList = chosen) (h : categoryRows.map String.toList = letters)
    (hsweep : sweep chosen 0 (letters.flatMap (rowWords [])) = true) :
    Clear (categories names).ranges := by
  intro code hblank hcode
  rw [← hnames] at hsweep
  refine clear_of_all (isClear_of_sweep hsweep) code hblank ?_
  rw [← tableWords_of_spelled h]
  exact has_of_joinRanges hcode

end

/-! ## Letters -/

theorem clear_letterCategories :
    Clear (categories ["Lu", "Ll", "Lt", "Lm", "Lo", "Nl"]).ranges := by
  apply clear_categories
  · repeat apply spelled_cons
    exact spelled_nil
  · repeat apply spelled_cons
    exact spelled_nil
  · decide +kernel

theorem clear_nameLetters : Clear nameLetters.ranges := by
  refine clear_union (clear_unions fun s hs => ?_) ?_
  · simp only [List.mem_cons, List.not_mem_nil, or_false] at hs
    rcases hs with rfl | rfl | rfl | rfl
    · exact clear_letterCategories
    all_goals
      apply clear_rangeTable
      · repeat apply spelled_cons
        exact spelled_nil
      · decide +kernel
  · apply clear_rangeTable
    · repeat apply spelled_cons
      exact spelled_nil
    · decide +kernel

theorem toNat_of_isAlpha {c : Char} (h : c.isAlpha = true) :
    65 ≤ c.toNat ∧ c.toNat ≤ 90 ∨ 97 ≤ c.toNat ∧ c.toNat ≤ 122 := by
  have hrange : (decide (c.val ≥ 65 ∧ c.val ≤ 90) ||
      decide (c.val ≥ 97) && decide (c.val ≤ 122)) = true := h
  simpa [UInt32.le_iff_toNat_le] using hrange

/-- No blank is alphabetic. -/
theorem isAlphabetic_of_isBlank {c : Char} (h : Text.isBlank c = true) :
    isAlphabetic c = false := by
  rw [isAlphabetic]
  split
  case isTrue hascii =>
    rw [Bool.eq_false_iff]
    intro halpha
    have hcode := toNat_of_isAlpha halpha
    simp only [Text.isBlank, Bool.or_eq_true, Bool.and_eq_true, decide_eq_true_eq, beq_iff_eq] at h
    omega
  case isFalse hwide =>
    rw [Bool.eq_false_iff]
    intro hcontains
    exact clear_nameLetters _ (has_wideBlanks h (Nat.le_of_not_lt hwide)) (has_of_reaches hcontains)

end Unicode

end BundleConfig
