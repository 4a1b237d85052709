import BundleConfig.KeyPath.Reader

/-!
# The spelling of key paths

`KeyPath.toText` writes a path and `KeyPath.ofText` reads it.  Reading is the inverse of
writing for *printable* paths: their keys hold none of the characters that the reader
takes for its own, and no blank is where the text begins or ends
(`KeyPath.ofText_toText`).  A closing bracket is an ordinary letter in such a key.

*Quoted keys.*  Between brackets and quotes a key stands as it is, whatever it holds,
with one exception: a closing bracket ends the bracket also between quotes
(`KeyPath.ofText_quotedKey`).
-/

namespace BundleConfig

/-! ## Blanks and numbers -/

namespace Text

variable {cs : List Char}

/-- A text with no blank at its ends is its own trimmed text. -/
theorem trim_eq_self (hfirst : ∀ c, cs.head? = some c → isBlank c = false)
    (hlast : ∀ c, cs.getLast? = some c → isBlank c = false) : trim cs = cs := by
  have hdrop : ∀ {letters : List Char}, (∀ c, letters.head? = some c → isBlank c = false) →
      letters.dropWhile isBlank = letters := by
    intro letters h
    cases letters with
    | nil => rfl
    | cons c rest => simp [h c rfl]
  rw [trim, hdrop hfirst, hdrop, List.reverse_reverse]
  intro c hc
  rw [List.head?_reverse] at hc
  exact hlast c hc

/-- The blanks that may be dropped are behind the first letter, if that is none. -/
theorem exists_trim_cons {c : Char} (h : isBlank c = false) (cs : List Char) :
    ∃ rest, rest ⊆ cs ∧ trim (c :: cs) = c :: rest := by
  have hlast : (cs.reverse ++ [c]).dropWhile isBlank = cs.reverse.dropWhile isBlank ++ [c] := by
    rw [List.dropWhile_append]
    split
    next hnil => simp_all
    next => rfl
  refine ⟨(cs.reverse.dropWhile isBlank).reverse, ?_, ?_⟩
  · intro d hd
    exact List.mem_reverse.mp ((List.dropWhile_sublist _).mem (List.mem_reverse.mp hd))
  · rw [trim, List.dropWhile_cons_of_neg (by simp [h]), List.reverse_cons, hlast,
      List.reverse_append]
    rfl

theorem toNat_of_isDigit {c : Char} (h : c.isDigit = true) : 48 ≤ c.toNat ∧ c.toNat ≤ 57 := by
  simpa [Char.isDigit, UInt32.le_iff_toNat_le] using h

theorem isBlank_of_isDigit {c : Char} (h : c.isDigit = true) : isBlank c = false := by
  have hrange := toNat_of_isDigit h
  simp only [isBlank, Bool.or_eq_false_iff, Bool.and_eq_false_iff, decide_eq_false_iff_not,
    beq_eq_false_iff_ne]
  omega

theorem digitsValue_toDigits (n : Nat) : digitsValue (Nat.toDigits 10 n) = n := by
  have hvalue : digitsValue (Nat.toDigits 10 n) = Nat.ofDigitChars 10 (Nat.toDigits 10 n) 0 := by
    rw [digitsValue, Nat.ofDigitChars]
    congr 1
    funext value c
    rw [Nat.mul_comm]
  rw [hvalue, Nat.ofDigitChars_ten_toDigits]

/-- The digits of a number write that number. -/
theorem natural?_toDigits {n : Nat} (h : n < Nat.pow 2 64) :
    natural? (Nat.toDigits 10 n) = some n := by
  have hdigits : ∀ c ∈ Nat.toDigits 10 n, c.isDigit = true := fun c hc =>
    Nat.isDigit_of_mem_toDigits (by decide) (by decide) hc
  have hvalue := digitsValue_toDigits n
  match hcs : Nat.toDigits 10 n with
  | [] => exact absurd hcs Nat.toDigits_ne_nil
  | c :: rest =>
      rw [hcs] at hdigits hvalue
      have hplus : c ≠ '+' := by
        rintro rfl
        exact absurd (hdigits '+' List.mem_cons_self) (by decide)
      have hall : (c :: rest).all Char.isDigit = true := List.all_eq_true.mpr hdigits
      have hread : natural? (c :: rest) = if digitsValue (c :: rest) < Nat.pow 2 64 then
          some (digitsValue (c :: rest)) else none := by
        simp [natural?, hplus, hall]
      rw [hread, hvalue, if_pos h]

end Text

namespace KeyPath

/-! ## Reading letters and brackets -/

/-- A key that can stand in a path as it is. -/
structure IsBareKey (name : String) : Prop where
  ne_empty : name ≠ ""
  not_mem_dot : '.' ∉ name.toList
  not_mem_bracket : '[' ∉ name.toList
  not_mem_backslash : '\\' ∉ name.toList

variable {pending inner letters rest : List Char} {name : String} {position : Nat} {p : KeyPath}

theorem IsBareKey.toList_ne_nil (h : IsBareKey name) : name.toList ≠ [] := fun hnil =>
  h.ne_empty (String.toList_injective hnil)

theorem keyOf_toList (h : IsBareKey name) : keyOf name.toList = [.key name] := by
  simp [keyOf, h.toList_ne_nil]

theorem scan_dot :
    scan pending none ('.' :: rest) = keyOf pending.reverse ++ scan [] none rest := by
  simp [scan]

theorem scan_bracket :
    scan pending none ('[' :: rest) = keyOf pending.reverse ++ scan [] (some []) rest := by
  simp [scan]

/-- The letters of a key are collected. -/
theorem scan_letters (hdot : '.' ∉ letters) (hbracket : '[' ∉ letters)
    (hbackslash : '\\' ∉ letters) :
    scan pending none (letters ++ rest) = scan (letters.reverse ++ pending) none rest := by
  induction letters generalizing pending with
  | nil => rfl
  | cons c letters ih =>
      simp only [List.mem_cons, not_or] at hdot hbracket hbackslash
      have hc : scan pending none (c :: (letters ++ rest)) =
          scan (c :: pending) none (letters ++ rest) := by
        rw [scan, if_neg (Ne.symm hdot.1), if_neg (Ne.symm hbracket.1)]
        · exact fun heq => absurd heq.symm hbackslash.1
        · exact fun _ _ heq => absurd heq.symm hbackslash.1
      rw [List.cons_append, hc, ih hdot.2 hbracket.2 hbackslash.2, List.reverse_cons,
        List.append_assoc, List.singleton_append]

/-- A bracket goes on to the first closing one. -/
theorem scan_inner (h : ']' ∉ letters) : scan pending (some inner) (letters ++ ']' :: rest) =
    bracketed (inner.reverse ++ letters) ++ scan [] none rest := by
  induction letters generalizing pending inner with
  | nil => simp [scan]
  | cons c letters ih =>
      simp only [List.mem_cons, not_or] at h
      rw [List.cons_append, scan, if_neg (Ne.symm h.1), ih h.2, List.reverse_cons,
        List.append_assoc, List.singleton_append]

theorem unquote?_of_ne {quote c : Char} (h : c ≠ quote) : unquote? quote (c :: letters) = none :=
  if_neg fun hand => h hand.1

/-- A number between brackets is a position. -/
theorem bracketed_toDigits (h : position < Nat.pow 2 64) :
    bracketed (Nat.toDigits 10 position) = [.index position] := by
  have hdigits : ∀ c ∈ Nat.toDigits 10 position, c.isDigit = true := fun c hc =>
    Nat.isDigit_of_mem_toDigits (by decide) (by decide) hc
  have htrim : Text.trim (Nat.toDigits 10 position) = Nat.toDigits 10 position :=
    Text.trim_eq_self
      (fun c hc => Text.isBlank_of_isDigit (hdigits c (List.mem_of_head? hc)))
      (fun c hc => Text.isBlank_of_isDigit (hdigits c (List.mem_of_getLast? hc)))
  have hunquote : ∀ quote : Char, quote.isDigit = false →
      unquote? quote (Nat.toDigits 10 position) = none := by
    intro quote hquote
    match hcs : Nat.toDigits 10 position with
    | [] => rfl
    | c :: rest =>
        refine unquote?_of_ne ?_
        rintro rfl
        rw [hdigits c (hcs ▸ List.mem_cons_self)] at hquote
        cases hquote
  simp [bracketed, htrim, hunquote, Text.natural?_toDigits h]

/-- Quotes between brackets hold a key as it is. -/
theorem bracketed_quoted (letters : List Char) :
    bracketed ('"' :: (letters ++ ['"'])) = [.key (String.ofList letters)] := by
  have htrim : Text.trim ('"' :: (letters ++ ['"'])) = '"' :: (letters ++ ['"']) := by
    refine Text.trim_eq_self ?_ ?_
    · intro c hc
      cases hc
      decide
    · intro c hc
      rw [← List.cons_append, List.getLast?_concat] at hc
      cases hc
      decide
  simp [bracketed, htrim, unquote?]

/-- A quote that is not closed is a letter of the key. -/
theorem bracketed_unclosed (h : '"' ∉ letters) :
    bracketed ('"' :: letters) = [.key (String.ofList (Text.trim ('"' :: letters)))] := by
  obtain ⟨rest, hrest, htrim⟩ :=
    Text.exists_trim_cons (by decide : Text.isBlank '"' = false) letters
  have hopen : unquote? '"' ('"' :: rest) = none :=
    if_neg fun hand => h (hrest (List.mem_of_getLast? hand.2))
  have hnumber : Text.natural? ('"' :: rest) = none := by
    simp [Text.natural?]
  simp [bracketed, htrim, hopen, unquote?_of_ne, hnumber, keyOf]

/-! ## Reading what was written -/

/-- The steps of a path are read one by one, after the key that is being read. -/
theorem scan_segments (hkeys : ∀ name, .key name ∈ p → IsBareKey name)
    (hpositions : ∀ position, .index position ∈ p → position < Nat.pow 2 64) :
    scan pending none (p.flatMap segmentText) = keyOf pending.reverse ++ p := by
  induction p generalizing pending with
  | nil => simp [scan]
  | cons s p ih =>
      have ih := fun pending => @ih pending (fun name h => hkeys name (List.mem_cons_of_mem s h))
        fun position h => hpositions position (List.mem_cons_of_mem s h)
      cases s with
      | key name =>
          have hname := hkeys name List.mem_cons_self
          have hletters := @scan_letters [] name.toList (p.flatMap segmentText)
            hname.not_mem_dot hname.not_mem_bracket hname.not_mem_backslash
          rw [List.flatMap_cons, segmentText, List.cons_append, scan_dot, hletters, ih,
            List.append_nil, List.reverse_reverse, keyOf_toList hname]
          rfl
      | index position =>
          have hposition := hpositions position List.mem_cons_self
          have hclosing : ']' ∉ Nat.toDigits 10 position := by
            intro hmem
            have hdigit := Nat.isDigit_of_mem_toDigits (by decide) (by decide) hmem
            cases hdigit
          rw [List.flatMap_cons, segmentText, List.cons_append, List.cons_append,
            List.append_assoc, List.singleton_append, scan_bracket, scan_inner hclosing, ih]
          simp [bracketed_toDigits hposition, keyOf]

/-- A path whose text tells the path. -/
structure IsPrintable (p : KeyPath) : Prop where
  ne_root : p ≠ []
  keys : ∀ name, .key name ∈ p → IsBareKey name
  positions : ∀ position, .index position ∈ p → position < Nat.pow 2 64
  /-- The text does not begin with a blank. -/
  first : ∀ name, p.head? = some (.key name) →
    ∀ c, name.toList.head? = some c → Text.isBlank c = false
  /-- The text does not end with a blank. -/
  last : ∀ name, p.getLast? = some (.key name) →
    ∀ c, name.toList.getLast? = some c → Text.isBlank c = false

/-- A text ends with the key of the last step, or with a closing bracket. -/
theorem exists_render_concat (p : KeyPath) (s : Segment) : ∃ before, (p ++ [s]).render =
    before ++ match s with
      | .key name => name.toList
      | .index _ => [']'] := by
  have hsegment : ∃ before, segmentText s = before ++ match s with
      | .key name => name.toList
      | .index _ => [']'] := by
    cases s with
    | key name => exact ⟨['.'], rfl⟩
    | index position => exact ⟨'[' :: Nat.toDigits 10 position, rfl⟩
  obtain ⟨before, hbefore⟩ := hsegment
  cases p with
  | nil =>
      cases s with
      | key name => exact ⟨[], by simp [render]⟩
      | index position => exact ⟨before, by simp [render, hbefore]⟩
  | cons first p =>
      cases first with
      | key name => exact ⟨name.toList ++ p.flatMap segmentText ++ before, by
          simp [render, hbefore]⟩
      | index position => exact ⟨(.index position :: p).flatMap segmentText ++ before, by
          simp [render, hbefore]⟩

namespace IsPrintable

theorem head_render (h : p.IsPrintable) {c : Char} (hc : p.render.head? = some c) :
    Text.isBlank c = false := by
  cases p with
  | nil => exact absurd rfl h.ne_root
  | cons s p =>
      cases s with
      | key name =>
          have hne := (h.keys name List.mem_cons_self).toList_ne_nil
          refine h.first name rfl c ?_
          rwa [render, List.head?_append, Option.or_of_isSome (by simp [hne])] at hc
      | index position =>
          cases hc
          decide

theorem getLast_render (h : p.IsPrintable) {c : Char} (hc : p.render.getLast? = some c) :
    Text.isBlank c = false := by
  obtain ⟨p, s, rfl⟩ := (List.eq_nil_or_concat p).resolve_left h.ne_root
  rw [List.concat_eq_append] at h hc
  obtain ⟨before, hrender⟩ := exists_render_concat p s
  rw [hrender] at hc
  cases s with
  | key name =>
      have hne := (h.keys name (by simp)).toList_ne_nil
      refine h.last name (by simp) c ?_
      rwa [List.getLast?_append, Option.or_of_isSome (by simp [hne])] at hc
  | index position =>
      rw [List.getLast?_concat] at hc
      cases hc
      decide

end IsPrintable

/-- The text of a printable path reads back as the path. -/
theorem ofText_toText (h : p.IsPrintable) : ofText p.toText = p := by
  have htrim : Text.trim p.render = p.render :=
    Text.trim_eq_self (fun _ hc => h.head_render hc) (fun _ hc => h.getLast_render hc)
  rw [ofText, toText, String.toList_ofList, htrim]
  cases p with
  | nil => exact absurd rfl h.ne_root
  | cons s rest =>
      cases s with
      | key name =>
          have hname := h.keys name List.mem_cons_self
          have hkeys : ∀ other, .key other ∈ rest → IsBareKey other := fun other hmem =>
            h.keys other (List.mem_cons_of_mem _ hmem)
          have hpositions : ∀ position, .index position ∈ rest → position < Nat.pow 2 64 :=
            fun position hmem => h.positions position (List.mem_cons_of_mem _ hmem)
          rw [render, scan_letters hname.not_mem_dot hname.not_mem_bracket
            hname.not_mem_backslash, List.append_nil, scan_segments hkeys hpositions,
            List.reverse_reverse, keyOf_toList hname]
          rfl
      | index position => exact scan_segments h.keys h.positions

/-- A path with keys that look like numbers, quotes, closing brackets and the root. -/
def oddPath : KeyPath :=
  [.key "a]'\" ", .index 0, .index 18446744073709551615, .key " 7", .key "<root>"]

theorem ofText_oddPath : oddPath.IsPrintable ∧ ofText oddPath.toText = oddPath := by
  have hkeys : ∀ name, .key name ∈ oddPath → IsBareKey name := by
    intro name hmem
    simp only [oddPath, List.mem_cons, Segment.key.injEq, reduceCtorEq, List.not_mem_nil,
      or_false, false_or] at hmem
    rcases hmem with rfl | rfl | rfl <;> exact ⟨by decide, by decide, by decide, by decide⟩
  have hpositions : ∀ position, .index position ∈ oddPath → position < Nat.pow 2 64 := by
    intro position hmem
    simp only [oddPath, List.mem_cons, Segment.index.injEq, reduceCtorEq, List.not_mem_nil,
      or_false, false_or] at hmem
    rcases hmem with rfl | rfl <;> decide
  have h : oddPath.IsPrintable := by
    refine ⟨by decide, hkeys, hpositions, ?_, ?_⟩
    · rintro _ ⟨⟩ c hc
      cases hc
      decide
    · rintro _ ⟨⟩ c hc
      cases hc
      decide
  exact ⟨h, ofText_toText h⟩

/-! ## Quoted keys -/

/-- The text `a["key"]` is the key `a` and what the bracket and the rest are read as. -/
theorem ofText_bracket (key : String) : ofText ("a[\"" ++ key ++ "\"]") =
    .key "a" :: scan [] (some []) ('"' :: (key.toList ++ ['"', ']'])) := by
  have hchars : ("a[\"" ++ key ++ "\"]").toList =
      ['a'] ++ '[' :: '"' :: (key.toList ++ ['"', ']']) := by simp
  have hend : ['a'] ++ '[' :: '"' :: (key.toList ++ ['"', ']']) =
      'a' :: '[' :: '"' :: (key.toList ++ ['"']) ++ [']'] := by simp
  have htrim : Text.trim (['a'] ++ '[' :: '"' :: (key.toList ++ ['"', ']'])) =
      ['a'] ++ '[' :: '"' :: (key.toList ++ ['"', ']']) := by
    refine Text.trim_eq_self ?_ ?_
    · intro c hc
      cases hc
      decide
    · intro c hc
      rw [hend, List.getLast?_concat] at hc
      cases hc
      decide
  rw [ofText, hchars, htrim, scan_letters (by decide) (by decide) (by decide), scan_bracket]
  rfl

theorem ofText_bracket_of_not_mem {key : String} (h : ']' ∉ key.toList) :
    ofText ("a[\"" ++ key ++ "\"]") = [.key "a", .key key] := by
  have hinner : ']' ∉ '"' :: (key.toList ++ ['"']) := by simp [h]
  have hsplit : '"' :: (key.toList ++ ['"', ']']) = '"' :: (key.toList ++ ['"']) ++ [']'] := by
    simp
  rw [ofText_bracket, hsplit, scan_inner hinner, List.reverse_nil, List.nil_append,
    bracketed_quoted, String.ofList_toList]
  rfl

/-- The text `a["key"]` is read as the keys `a` and `key` exactly if no closing bracket is in
the key.  With one in it, the bracket ends there.  Then the second key is the opening quote and
what stands before the bracket, and the rest of the key goes on as a path. -/
theorem ofText_quotedKey {key : String} (h : '"' ∉ key.toList) :
    (ofText ("a[\"" ++ key ++ "\"]") = [.key "a", .key key] ↔ ']' ∉ key.toList) ∧
      ∀ before after, key.toList = before ++ ']' :: after → ']' ∉ before →
        ofText ("a[\"" ++ key ++ "\"]") =
          .key "a" :: .key (String.ofList (Text.trim ('"' :: before))) ::
            scan [] none (after ++ ['"', ']']) := by
  have hcut : ∀ before after, key.toList = before ++ ']' :: after → ']' ∉ before →
      ofText ("a[\"" ++ key ++ "\"]") =
        .key "a" :: .key (String.ofList (Text.trim ('"' :: before))) ::
          scan [] none (after ++ ['"', ']']) := by
    intro before after hkey hbefore
    have hinner : ']' ∉ '"' :: before := by simp [hbefore]
    have hquote : '"' ∉ before := fun hmem => h (hkey ▸ List.mem_append_left _ hmem)
    rw [ofText_bracket, hkey, List.append_assoc, List.cons_append, ← List.cons_append,
      scan_inner hinner, List.reverse_nil, List.nil_append, bracketed_unclosed hquote]
    rfl
  refine ⟨⟨?_, ofText_bracket_of_not_mem⟩, hcut⟩
  intro hread hmem
  obtain ⟨before, after, hkey, hbefore⟩ := List.eq_append_cons_of_mem hmem
  obtain ⟨rest, -, htrim⟩ := Text.exists_trim_cons (by decide : Text.isBlank '"' = false) before
  rw [hcut before after hkey hbefore, htrim] at hread
  have hname : String.ofList ('"' :: rest) = key := by
    simp only [List.cons.injEq, Segment.key.injEq] at hread
    exact hread.2.1
  rw [← hname, String.toList_ofList] at h
  exact h List.mem_cons_self

/-- Dots, opening brackets, backslashes, other quotes and blanks are protected. -/
theorem ofText_specialLetters : '"' ∉ " .[\\' ".toList ∧
    ofText ("a[\"" ++ " .[\\' " ++ "\"]") = [.key "a", .key " .[\\' "] := by
  have h : '"' ∉ " .[\\' ".toList := by decide
  exact ⟨h, (ofText_quotedKey h).1.mpr (by decide)⟩

/-- A closing bracket is not. -/
theorem ofText_closingBracket : '"' ∉ "b]c".toList ∧
    ofText ("a[\"" ++ "b]c" ++ "\"]") = [.key "a", .key "\"b", .key "c\"]"] ∧
    ofText ("a[\"" ++ "b]c" ++ "\"]") ≠ [.key "a", .key "b]c"] := by
  have hread : ofText ("a[\"" ++ "b]c" ++ "\"]") = [.key "a", .key "\"b", .key "c\"]"] := by
    decide
  exact ⟨by decide, hread, by rw [hread]; decide⟩

end KeyPath

end BundleConfig
