import BundleConfig.Expression.Lexer
import BundleConfig.Proofs.Decimal.Integers
import BundleConfig.Proofs.KeyPath.Spelling
import BundleConfig.Proofs.Result
import BundleConfig.Proofs.Text.Pieces
import BundleConfig.Proofs.Unicode.Letters

/-!
# The spelling of tokens

Tokens that are written with single spaces between them are read back as they were
(`Token.ofText_spelled`).  A string may stand in quotes of either kind, whatever it holds: a
backslash goes before each quote of that kind and before each backslash.

*Ends.*  What a token is read as depends on what follows it: a name may go on with a letter, a
number with a point, and a mark with the rest of a longer one.  None of them goes on with a
space or at the end of the text, so each word is read by itself (`Token.Spells.isRead`).

*Beginnings.*  The first character decides how a word is read, and blanks are looked for
first.  For a name this needs that no letter is a blank.
-/

namespace BundleConfig

namespace Token

/-! ## Spellings -/

/-- How a character is written between quotes. -/
def escape (quote c : Char) : List Char := if c = quote ∨ c = '\\' then ['\\', c] else [c]

/-- How a token is written. -/
inductive Spells : Token → List Char → Prop
  /-- A string in quotes of one kind, which are escaped in it. -/
  | string {quote : Char} (h : quote = '\'' ∨ quote = '"') (text : String) :
      Spells (.string text) (quote :: (text.toList.flatMap (escape quote) ++ [quote]))
  /-- A name. -/
  | name {c : Char} {cs : List Char} (hfirst : startsIdentifier c = true)
      (hcs : ∀ d ∈ cs, continuesIdentifier d = true) :
      Spells (.identifier (String.ofList (c :: cs))) (c :: cs)
  /-- The double that stands for an integer, of which there is one, in the digits of that
  integer. -/
  | integer {x : Double} {n : Nat} (h : n < 2 ^ 53) (hsign : x.isNegative = false)
      (hvalue : x.integer? = some (n : Int)) : Spells (.number x) (Nat.toDigits 10 n)
  /-- A mark. -/
  | mark (m : Mark) : Spells (.mark m) m.text.toList

variable {c quote : Char} {cs rest word : List Char} {t : Token} {ts : List Token}

/-! ## Texts in tokens -/

/-- A text is scanned as tokens, with as much fuel as it starts with or more. -/
def Scans (cs : List Char) (ts : List Token) : Prop :=
  ∀ fuel, cs.length < fuel → scan fuel cs = .ok ts

theorem scans_nil : Scans [] [] := by
  intro fuel hfuel
  obtain ⟨fuel, rfl⟩ := Nat.exists_eq_add_one_of_ne_zero (Nat.ne_of_gt hfuel)
  rfl

theorem Scans.blank (hblank : Text.isBlank c = true) (h : Scans cs ts) : Scans (c :: cs) ts := by
  intro fuel hfuel
  rw [List.length_cons] at hfuel
  obtain ⟨fuel, rfl⟩ := Nat.exists_eq_add_one_of_ne_zero (by omega : fuel ≠ 0)
  rw [scan, if_pos hblank]
  exact h fuel (by omega)

/-- A token and the tokens of what it leaves. -/
theorem Scans.token (hblank : Text.isBlank c = false) (hnext : next c cs = .ok (t, rest))
    (hrest : rest.length ≤ cs.length) (h : Scans rest ts) : Scans (c :: cs) (t :: ts) := by
  intro fuel hfuel
  rw [List.length_cons] at hfuel
  obtain ⟨fuel, rfl⟩ := Nat.exists_eq_add_one_of_ne_zero (by omega : fuel ≠ 0)
  rw [scan, hblank, if_neg Bool.false_ne_true, hnext]
  exact bind_eq_ok.mpr ⟨_, rfl, bind_eq_ok.mpr ⟨ts, h fuel (by omega), rfl⟩⟩

theorem Scans.ofText {source : String} (h : Scans source.toList ts) : ofText source = .ok ts :=
  h _ (Nat.lt_succ_self _)

/-! ## Where a token ends -/

/-- The text does not go on with a character of some kind. -/
def Ends (test : Char → Bool) (cs : List Char) : Prop := ∀ c ∈ cs.head?, test c = false

theorem ends_cons {test : Char → Bool} : Ends test (c :: cs) ↔ test c = false := by
  simp [Ends]

/-- A run of characters of some kind is taken to its end. -/
theorem span_of_ends {test : Char → Bool} (h : ∀ c ∈ cs, test c = true) (hrest : Ends test rest) :
    (cs ++ rest).takeWhile test = cs ∧ (cs ++ rest).dropWhile test = rest := by
  have hstop : rest.takeWhile test = [] ∧ rest.dropWhile test = rest := by
    cases rest with
    | nil => exact ⟨rfl, rfl⟩
    | cons c rest => simp [ends_cons.mp hrest]
  rw [List.takeWhile_append_of_pos h, List.dropWhile_append_of_pos h, hstop.1, hstop.2,
    List.append_nil]
  exact ⟨rfl, rfl⟩

/-- The text ends, or goes on with a space. -/
def Separated (cs : List Char) : Prop := ∀ c ∈ cs.head?, c = ' '

theorem Separated.ends (h : Separated rest) {test : Char → Bool} (hspace : test ' ' = false) :
    Ends test rest := fun c hc => h c hc ▸ hspace

/-! ## Names -/

theorem startsIdentifier_of_isBlank (h : Text.isBlank c = true) : startsIdentifier c = false := by
  have hmarks : c ≠ '_' ∧ c ≠ '$' := by
    constructor <;> rintro rfl <;> exact absurd h (by decide)
  simp [startsIdentifier, Unicode.isAlphabetic_of_isBlank h, hmarks]

theorem startsIdentifier_of_isDigit (h : c.isDigit = true) : startsIdentifier c = false := by
  have hcode := Text.toNat_of_isDigit h
  have halpha : c.isAlpha = false := by
    rw [Bool.eq_false_iff]
    intro halpha
    have hletter := Unicode.toNat_of_isAlpha halpha
    omega
  have hletter : Unicode.isAlphabetic c = false := by
    rw [Unicode.isAlphabetic, if_pos (by omega), halpha]
  have hmarks : c ≠ '_' ∧ c ≠ '$' := by
    constructor <;> rintro rfl <;> exact absurd h (by decide)
  simp [startsIdentifier, hletter, hmarks]

/-- A name ends where the text does not go on with it. -/
theorem next_name (hfirst : startsIdentifier c = true)
    (hcs : ∀ d ∈ cs, continuesIdentifier d = true) (hrest : Ends continuesIdentifier rest) :
    next c (cs ++ rest) = .ok (.identifier (String.ofList (c :: cs)), rest) := by
  obtain ⟨htake, hdrop⟩ := span_of_ends hcs hrest
  have hquote : ¬ (c = '\'' ∨ c = '"') := by
    rintro (rfl | rfl) <;> exact absurd hfirst (by decide)
  have hdigit : c.isDigit = false := by
    rw [Bool.eq_false_iff]
    intro hdigit
    rw [startsIdentifier_of_isDigit hdigit] at hfirst
    cases hfirst
  rw [next, hdigit, if_neg Bool.false_ne_true, if_neg hquote,
    if_pos hfirst, htake, hdrop]

/-! ## Numbers -/

theorem next_digits (hfirst : c.isDigit = true) (hcs : ∀ d ∈ cs, d.isDigit = true)
    (hrest : Ends isNumberCharacter rest) :
    next c (cs ++ rest) = .ok (.number (.ofDecimal (Text.digitsValue (c :: cs)) 0), rest) := by
  have hnumber : ∀ d ∈ cs, isNumberCharacter d = true := by
    intro d hd
    rw [isNumberCharacter, hcs d hd, Bool.true_or]
  obtain ⟨htake, hdrop⟩ := span_of_ends hnumber hrest
  have hpoint : '.' ∉ c :: cs := by
    intro hmem
    rcases List.mem_cons.mp hmem with rfl | hmem
    · exact absurd hfirst (by decide)
    · exact absurd (hcs '.' hmem) (by decide)
  rw [next, if_pos hfirst]
  simp only [htake, hdrop, numeral?, Text.split_of_not_mem hpoint]

/-! ## Strings -/

theorem escapedCharacter_of_escaped (hquote : quote = '\'' ∨ quote = '"')
    (h : c = quote ∨ c = '\\') : escapedCharacter c = c := by
  rcases h with rfl | rfl
  · rcases hquote with rfl | rfl <;> decide
  · decide

theorem stringRest_cons (h : c ≠ '\\') : stringRest quote (c :: cs) =
    (if c = quote then .ok ([], cs)
    else do
      let (text, rest) ← stringRest quote cs
      pure (c :: text, rest)) := by
  rw [stringRest]
  · exact fun hslash => absurd hslash h
  · exact fun _ _ hslash => absurd hslash h

/-- A string ends with the first quote that has no backslash before it. -/
theorem stringRest_escape (hquote : quote = '\'' ∨ quote = '"') (letters : List Char) :
    stringRest quote (letters.flatMap (escape quote) ++ quote :: rest) = .ok (letters, rest) := by
  induction letters with
  | nil =>
      have hslash : quote ≠ '\\' := by
        rcases hquote with rfl | rfl <;> decide
      rw [List.flatMap_nil, List.nil_append, stringRest_cons hslash, if_pos rfl]
  | cons c letters ih =>
      rw [List.flatMap_cons, List.append_assoc, escape]
      split
      case isTrue hescaped =>
        rw [List.cons_append, List.singleton_append, stringRest, ih,
          escapedCharacter_of_escaped hquote hescaped]
        rfl
      case isFalse hplain =>
        rw [not_or] at hplain
        rw [List.singleton_append, stringRest_cons hplain.2, if_neg hplain.1, ih]
        rfl

theorem next_string (hquote : quote = '\'' ∨ quote = '"') (text : String) :
    next quote (text.toList.flatMap (escape quote) ++ quote :: rest) =
      .ok (.string text, rest) := by
  have hdigit : quote.isDigit = false := by
    rcases hquote with rfl | rfl <;> decide
  rw [next, hdigit, if_neg Bool.false_ne_true, if_pos hquote, stringRest_escape hquote]
  exact congrArg (fun text => Except.ok (string text, rest)) String.ofList_toList

/-! ## Marks -/

/-- A text without spaces does not reach over a space. -/
theorem isPrefixOf_append_of_separated (hword : ' ' ∉ word) (hrest : Separated rest) :
    word.isPrefixOf (cs ++ rest) = word.isPrefixOf cs := by
  induction word generalizing cs with
  | nil => rfl
  | cons d word ih =>
      rw [List.mem_cons, not_or] at hword
      cases cs with
      | nil =>
          cases rest with
          | nil => rfl
          | cons c rest =>
              obtain rfl : c = ' ' := hrest c rfl
              simp [List.isPrefixOf, Ne.symm hword.1]
      | cons c cs => simp [List.isPrefixOf, ih hword.2]

/-- A mark is not taken for a longer one, since no mark holds a space. -/
theorem mark?_text (m : Mark) (hrest : Separated rest) :
    mark? (m.text.toList ++ rest) = some m := by
  have hspace : ∀ m : Mark, ' ' ∉ m.text.toList := by
    intro m
    cases m <;> decide
  have hnone : mark? (m.text.toList ++ rest) = mark? m.text.toList := by
    simp only [mark?, isPrefixOf_append_of_separated (hspace _) hrest]
  rw [hnone]
  cases m <;> rfl

theorem exists_text (m : Mark) : ∃ c cs, m.text.toList = c :: cs ∧ Text.isBlank c = false ∧
    c.isDigit = false ∧ ¬ (c = '\'' ∨ c = '"') ∧ startsIdentifier c = false := by
  cases m <;> exact ⟨_, _, rfl, by decide⟩

/-! ## Words -/

/-- The word is read as the token where the text ends with it or goes on with a space. -/
def IsRead (t : Token) (word : List Char) : Prop :=
  ∃ c cs, word = c :: cs ∧ Text.isBlank c = false ∧
    ∀ rest, Separated rest → next c (cs ++ rest) = .ok (t, rest)

theorem Spells.isRead (h : Spells t word) : IsRead t word := by
  cases h with
  | string hquote text =>
      refine ⟨_, _, rfl, ?_, fun rest _ => ?_⟩
      · rcases hquote with rfl | rfl <;> decide
      · rw [List.append_assoc]
        exact next_string hquote text
  | name hfirst hcs =>
      refine ⟨_, _, rfl, ?_, fun rest hrest => ?_⟩
      · rw [Bool.eq_false_iff]
        intro hblank
        rw [startsIdentifier_of_isBlank hblank] at hfirst
        cases hfirst
      · exact next_name hfirst hcs (hrest.ends (by decide))
  | @integer x n hn hsign hvalue =>
      have hdigits : ∀ c ∈ Nat.toDigits 10 n, c.isDigit = true := fun c hc =>
        Nat.isDigit_of_mem_toDigits (by decide) (by decide) hc
      match hword : Nat.toDigits 10 n with
      | [] => exact absurd hword Nat.toDigits_ne_nil
      | c :: cs =>
          rw [hword] at hdigits
          have hfirst := hdigits c List.mem_cons_self
          refine ⟨c, cs, rfl, Text.isBlank_of_isDigit hfirst, fun rest hrest => ?_⟩
          rw [next_digits hfirst (fun d hd => hdigits d (List.mem_cons_of_mem c hd))
            (hrest.ends (by decide)), ← hword, Text.digitsValue_toDigits,
            (Double.eq_ofDecimal_iff hn).mpr ⟨hsign, hvalue⟩]
  | mark m =>
      obtain ⟨c, cs, htext, hblank, hdigit, hquote, hname⟩ := exists_text m
      refine ⟨c, cs, htext, hblank, fun rest hrest => ?_⟩
      have hmark := mark?_text m hrest
      rw [htext, List.cons_append] at hmark
      rw [next, hdigit, if_neg Bool.false_ne_true, if_neg hquote, hname,
        if_neg Bool.false_ne_true]
      simp only [hmark, htext]
      simp

/-- What is read from a word and from the text behind it. -/
theorem Scans.append (h : IsRead t word) (hrest : Separated rest) (hscans : Scans rest ts) :
    Scans (word ++ rest) (t :: ts) := by
  obtain ⟨c, cs, rfl, hblank, hnext⟩ := h
  exact .token hblank (hnext rest hrest) (List.length_append ▸ Nat.le_add_left _ _) hscans

/-- Words with single spaces between them are read one after the other. -/
theorem scans_join {words : List (List Char)} (h : List.Forall₂ Spells ts words) :
    Scans (Text.join ' ' words) ts := by
  induction h with
  | nil => exact scans_nil
  | @cons t word ts words hword hwords ih =>
      cases hwords with
      | nil =>
          have hscans : Scans (word ++ []) [t] := .append hword.isRead nofun scans_nil
          rwa [List.append_nil] at hscans
      | cons =>
          rw [Text.join_cons_cons]
          refine .append hword.isRead ?_ (.blank (by decide) ih)
          simp [Separated]

/-- Tokens in writing, with single spaces between them, are read as they were. -/
theorem ofText_spelled {words : List (List Char)} (h : List.Forall₂ Spells ts words) :
    ofText (String.ofList (Text.join ' ' words)) = .ok ts := by
  apply Scans.ofText
  rw [String.toList_ofList]
  exact scans_join h

/-- Strings that hold quotes, backslashes and marks, and marks that begin alike. -/
theorem ofText_quotesAndMarks :
    ofText "'it\\'s \"\\\\ === ' \"it's \\\"\" $a1 9007199254740991 <= < !== ! 0" =
      .ok [.string "it's \"\\ === ", .string "it's \"", .identifier "$a1",
        .number ⟨0x433fffffffffffff⟩, .mark .lessEqual, .mark .less, .mark .strictNotEqual,
        .mark .not, .number ⟨0⟩] := by
  have hname : Spells (.identifier "$a1") ['$', 'a', '1'] :=
    .name rfl (List.all_eq_true.mp rfl)
  have hgreatest : Spells (.number ⟨0x433fffffffffffff⟩) (Nat.toDigits 10 9007199254740991) :=
    .integer (by decide) (by decide) (by decide +kernel)
  have hzero : Spells (.number ⟨0⟩) (Nat.toDigits 10 0) :=
    .integer (by decide) rfl (by decide +kernel)
  have h := ofText_spelled
    (.cons (.string (.inl rfl) "it's \"\\ === ") (.cons (.string (.inr rfl) "it's \"")
      (.cons hname (.cons hgreatest (.cons (.mark .lessEqual) (.cons (.mark .less)
        (.cons (.mark .strictNotEqual) (.cons (.mark .not) (.cons hzero .nil)))))))))
  refine Eq.trans (congrArg ofText ?_) h
  rw [← String.toList_inj, String.toList_ofList]
  decide +kernel

end Token

end BundleConfig
