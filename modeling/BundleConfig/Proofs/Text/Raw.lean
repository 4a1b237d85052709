import BundleConfig.Text.Raw
import BundleConfig.Proofs.Text.Pieces
import Mathlib.Order.Defs.LinearOrder
import Mathlib.Tactic.SplitIfs

/-!
# The rendering of raw texts

The bytes of a text are rendered as that text (`RawText.text_ofText`).

A letter of ASCII is one byte, and no other letter has that byte.  So the reading of
bytes stands between two letters before and after such a byte, whatever the bytes around
it are (`RawText.letters_append_cons`).  Joining pieces with it comes to the same before and
after rendering.

The order of raw texts is a linear order.
-/

namespace BundleConfig

namespace RawText

variable {raw : RawText} {bytes before after rest : List UInt8} {c : Char} {cs : List Char}

/-! ## Order -/

theorem bytes_injective : Function.Injective RawText.bytes := fun _ _ => congrArg mk

instance : LinearOrder RawText where
  le_refl a := List.le_refl a.bytes
  le_trans _ _ _ := List.le_trans
  le_antisymm _ _ h h' := bytes_injective (List.le_antisymm h h')
  le_total a b := List.le_total a.bytes b.bytes
  lt_iff_le_not_ge a b :=
    ⟨fun h => ⟨List.le_of_lt h, fun hle => hle h⟩, fun h => List.not_le.mp h.2⟩
  toDecidableLE := inferInstance

/-! ## The bytes of letters -/

theorem toNat_ofNat {n : Nat} (h : n < 256) : (UInt8.ofNat n).toNat = n := by
  rw [UInt8.toNat_ofNat', Nat.mod_eq_of_lt h]

@[simp] theorem encode_nil : encode [] = [] := rfl

theorem encode_cons (c : Char) (cs : List Char) :
    encode (c :: cs) = String.utf8EncodeChar c ++ encode cs :=
  List.flatMap_cons

theorem encode_append (cs ds : List Char) : encode (cs ++ ds) = encode cs ++ encode ds :=
  List.flatMap_append

/-- The byte of a letter of ASCII. -/
def asciiByte (c : Char) : UInt8 := .ofNat c.toNat

theorem slash_ascii : '/'.toNat < 128 := by decide

/-- All letters are letters of ASCII. -/
def IsAscii (cs : List Char) : Prop := ∀ c ∈ cs, c.toNat < 128

instance : Decidable (IsAscii cs) := List.decidableBAll (fun c : Char => c.toNat < 128) cs

theorem encodeChar_ascii (hc : c.toNat < 128) : String.utf8EncodeChar c = [asciiByte c] :=
  if_pos (Nat.le_of_lt_succ hc)

/-- Letters of ASCII are one byte each. -/
theorem encode_ascii (h : IsAscii cs) : encode cs = cs.map asciiByte := by
  rw [encode, List.map_eq_flatMap]
  exact List.flatMap_congr fun c hc => encodeChar_ascii (h c hc)

/-- Only a letter of ASCII has a byte of ASCII. -/
theorem eq_of_mem_encodeChar {byte : UInt8} (hbyte : byte.toNat < 128)
    (h : byte ∈ String.utf8EncodeChar c) : c.toNat = byte.toNat := by
  have hbound : c.toNat < 0x110000 := c.valid.elim (fun hlow => Nat.lt_trans hlow (by decide))
    And.right
  have hlater : ∀ {n}, n < 128 → byte ≠ UInt8.ofNat (n + 128) := by
    rintro n hn rfl
    rw [toNat_ofNat (by omega)] at hbyte
    omega
  unfold String.utf8EncodeChar at h
  extract_lets v at h
  have hv : v = c.toNat := rfl
  rw [← hv] at hbound ⊢
  clear_value v
  split at h
  next hsmall =>
    rw [List.mem_singleton.mp h, toNat_ofNat (by omega)]
  next =>
    exfalso
    split at h
    · simp only [List.mem_cons, List.not_mem_nil, or_false] at h
      obtain h | h := h
      · exact hlater (n := v / 64 % 32 + 64) (by omega) h
      · exact hlater (by omega) h
    split at h
    · simp only [List.mem_cons, List.not_mem_nil, or_false] at h
      obtain h | h | h := h
      · exact hlater (n := v / 4096 % 16 + 96) (by omega) h
      · exact hlater (by omega) h
      · exact hlater (by omega) h
    · simp only [List.mem_cons, List.not_mem_nil, or_false] at h
      obtain h | h | h | h := h
      · exact hlater (n := v / 262144 % 8 + 112) (by omega) h
      · exact hlater (by omega) h
      · exact hlater (by omega) h
      · exact hlater (by omega) h

theorem asciiByte_mem_encode (hc : c.toNat < 128) : asciiByte c ∈ encode cs ↔ c ∈ cs := by
  have hbyte : (asciiByte c).toNat = c.toNat := toNat_ofNat (by omega)
  constructor
  · intro h
    obtain ⟨d, hd, hmem⟩ := List.mem_flatMap.mp h
    have heq := (eq_of_mem_encodeChar (hbyte.symm ▸ hc) hmem).trans hbyte
    exact Char.toNat_inj.mp heq ▸ hd
  · intro h
    exact List.mem_flatMap.mpr ⟨c, h, encodeChar_ascii hc ▸ List.mem_singleton_self _⟩

/-! ## Reading letters -/

namespace Reading

theorem letters_cons (reading : Reading) (byte : UInt8) (rest : List UInt8) :
    reading.letters (byte :: rest) =
      (reading.step byte.toNat).1 ++ (reading.step byte.toNat).2.letters rest := by
  cases reading <;> rfl

/-- A number is open while it is the start of the number of a letter. -/
theorem isOpen_of_letter {number tail more : Nat} (span bound : Nat)
    (hspan : Nat.pow 64 more = span) (hbound : least tail = bound) (hlow : number * span ≤ c.toNat)
    (hhigh : c.toNat ≤ number * span + (span - 1)) (hleast : bound ≤ c.toNat) :
    isOpen number tail more = true := by
  have hvalid : c.toNat < 0xD800 ∨ 0xDFFF < c.toNat ∧ c.toNat < 0x110000 := c.valid
  subst hspan hbound
  simp only [isOpen, Bool.and_eq_true, Bool.or_eq_true, decide_eq_true_eq]
  omega

/-- What an open number without missing bytes is the number of. -/
theorem toNat_of_isOpen {number tail : Nat} (h : isOpen number tail 0 = true) :
    0x80 ≤ (Char.ofNat number).toNat := by
  simp only [isOpen, Bool.and_eq_true, Bool.or_eq_true, decide_eq_true_eq,
    show Nat.pow 64 0 = 1 from rfl] at h
  have hleast : 0x80 ≤ least tail := by
    unfold least
    split <;> decide
  have hvalid : number.isValidChar := by
    unfold Nat.isValidChar
    omega
  have hnumber : (Char.ofNat number).toNat = number := by
    rw [Char.ofNat, dif_pos hvalid]
    rfl
  omega

/-- The first byte of a letter that has more of them. -/
theorem letters_lead {number tail byte : Nat} (hstart : start byte = lead number tail)
    (hbyte : byte < 256) (hopen : isOpen number tail tail = true) :
    between.letters (.ofNat byte :: rest) = (within number tail (tail - 1)).letters rest := by
  rw [letters_cons, toNat_ofNat hbyte, step, hstart, lead, if_pos hopen, List.nil_append]

/-- A further byte of a letter. -/
theorem letters_further {number tail more k : Nat} (hk : k < 64)
    (hopen : isOpen (number * 64 + k) tail more = true) :
    (within number tail more).letters (.ofNat (k + 0x80) :: rest) =
      (proceed (number * 64 + k) tail more).1 ++
        (proceed (number * 64 + k) tail more).2.letters rest := by
  rw [letters_cons, toNat_ofNat (by omega), step, Nat.add_sub_cancel,
    if_pos ⟨by omega, by omega, hopen⟩]

/-- The bytes of a letter are read as that letter. -/
theorem letters_encodeChar (c : Char) (rest : List UInt8) :
    between.letters (String.utf8EncodeChar c ++ rest) = c :: between.letters rest := by
  have hopen := @isOpen_of_letter c
  have hc : Char.ofNat c.toNat = c := Char.ofNat_toNat c
  have hbound : c.toNat < 0x110000 := c.valid.elim (fun hlow => Nat.lt_trans hlow (by decide))
    And.right
  unfold String.utf8EncodeChar
  extract_lets v
  have hv : v = c.toNat := rfl
  rw [← hv] at hbound hc hopen
  clear_value v
  split
  next =>
    rw [List.singleton_append, letters_cons, toNat_ofNat (by omega), step, start,
      if_pos (by omega), hc]
    rfl
  split
  next =>
    have hstart : start (v / 64 % 32 + 0xC0) = lead (v / 64 % 32) 1 := by
      rw [start, if_neg (by omega), if_neg (by omega), if_pos (by omega), Nat.add_sub_cancel]
    have hone : v / 64 % 32 * 64 + v % 64 = v := by omega
    simp only [List.cons_append, List.nil_append]
    rw [letters_lead hstart (by omega) (hopen 64 0x80 rfl rfl (by omega) (by omega) (by omega)),
      letters_further (by omega) (hopen 1 0x80 rfl rfl (by omega) (by omega) (by omega)), hone,
      proceed, hc]
    rfl
  split
  next =>
    have hstart : start (v / 4096 % 16 + 0xE0) = lead (v / 4096 % 16) 2 := by
      rw [start, if_neg (by omega), if_neg (by omega), if_neg (by omega), if_pos (by omega),
        Nat.add_sub_cancel]
    have htwo : v / 4096 % 16 * 64 + v / 64 % 64 = v / 64 := by omega
    have hone : v / 64 * 64 + v % 64 = v := by omega
    simp only [List.cons_append, List.nil_append]
    rw [letters_lead hstart (by omega) (hopen 4096 0x800 rfl rfl (by omega) (by omega) (by omega)),
      letters_further (by omega) (hopen 64 0x800 rfl rfl (by omega) (by omega) (by omega)), htwo,
      proceed,
      letters_further (by omega) (hopen 1 0x800 rfl rfl (by omega) (by omega) (by omega)), hone,
      proceed, hc]
    rfl
  next =>
    have hstart : start (v / 262144 % 8 + 0xF0) = lead (v / 262144 % 8) 3 := by
      rw [start, if_neg (by omega), if_neg (by omega), if_neg (by omega), if_neg (by omega),
        if_pos (by omega), Nat.add_sub_cancel]
    have hthree : v / 262144 % 8 * 64 + v / 4096 % 64 = v / 4096 := by omega
    have htwo : v / 4096 * 64 + v / 64 % 64 = v / 64 := by omega
    have hone : v / 64 * 64 + v % 64 = v := by omega
    simp only [List.cons_append, List.nil_append]
    rw [letters_lead hstart (by omega)
        (hopen 262144 0x10000 rfl rfl (by omega) (by omega) (by omega)),
      letters_further (by omega) (hopen 4096 0x10000 rfl rfl (by omega) (by omega) (by omega)),
      hthree, proceed,
      letters_further (by omega) (hopen 64 0x10000 rfl rfl (by omega) (by omega) (by omega)), htwo,
      proceed,
      letters_further (by omega) (hopen 1 0x10000 rfl rfl (by omega) (by omega) (by omega)), hone,
      proceed, hc]
    rfl

/-- A byte of ASCII ends what stands before it and is a letter itself. -/
theorem letters_ascii (hc : c.toNat < 128) (reading : Reading) (rest : List UInt8) :
    reading.letters (asciiByte c :: rest) = reading.letters [] ++ c :: between.letters rest := by
  have hbyte : (asciiByte c).toNat = c.toNat := toNat_ofNat (by omega)
  have hstart : start c.toNat = ([c], between) := by
    rw [start, if_pos hc, Char.ofNat_toNat]
  rw [letters_cons, hbyte]
  cases reading with
  | between =>
      rw [step, hstart]
      rfl
  | within number tail more =>
      rw [step, if_neg (by omega), hstart]
      rfl

/-- A byte settles a letter of ASCII only if it is its byte. -/
theorem eq_of_mem_start {byte : Nat} (hc : c.toNat < 128) (h : c ∈ (start byte).1) :
    byte = c.toNat := by
  have hother : ∀ {number tail}, c ∉ (lead number tail).1 := by
    intro number tail hmem
    unfold lead at hmem
    split at hmem
    · exact List.not_mem_nil hmem
    · exact absurd (List.mem_singleton.mp hmem ▸ hc) (by decide)
  have hreplacement : c ∉ [replacement] := fun hmem =>
    absurd (List.mem_singleton.mp hmem ▸ hc) (by decide)
  unfold start at h
  split at h
  next hbyte =>
    have hvalid : byte.isValidChar := Or.inl (by omega)
    rw [List.mem_singleton.mp h, Char.ofNat, dif_pos hvalid]
    rfl
  next =>
    exfalso
    split at h
    · exact hreplacement h
    split at h
    · exact hother h
    split at h
    · exact hother h
    split at h
    · exact hother h
    · exact hreplacement h

theorem eq_of_mem_step {byte : Nat} {reading : Reading} (hc : c.toNat < 128)
    (h : c ∈ (reading.step byte).1) : byte = c.toNat := by
  cases reading with
  | between => exact eq_of_mem_start hc h
  | within number tail more =>
      rw [step] at h
      split at h
      next hgoes =>
        cases more with
        | zero =>
            rw [proceed, List.mem_singleton] at h
            have := toNat_of_isOpen hgoes.2.2
            rw [← h] at this
            omega
        | succ more => cases h
      next =>
        obtain h | h := List.mem_cons.mp h
        · exact absurd (h ▸ hc) (by decide)
        · exact eq_of_mem_start hc h

theorem asciiByte_mem_of_mem_letters (hc : c.toNat < 128) {reading : Reading}
    (h : c ∈ reading.letters bytes) : asciiByte c ∈ bytes := by
  induction bytes generalizing reading with
  | nil =>
      cases reading with
      | between => cases h
      | within => exact absurd (List.mem_singleton.mp h ▸ hc) (by decide)
  | cons byte bytes ih =>
      rw [letters_cons, List.mem_append] at h
      obtain h | h := h
      · have hbyte : asciiByte c = byte := by
          rw [asciiByte, ← eq_of_mem_step hc h, UInt8.ofNat_toNat]
        exact hbyte ▸ List.mem_cons_self
      · exact List.mem_cons_of_mem byte (ih h)

/-- A byte that settles nothing leads into a letter. -/
theorem step_ne_between {byte : Nat} {reading : Reading} (h : (reading.step byte).1 = []) :
    (reading.step byte).2 ≠ between := by
  have hstart : (start byte).1 = [] → (start byte).2 ≠ between := by
    intro hnothing
    unfold start lead at hnothing ⊢
    split_ifs at hnothing ⊢ <;> simp_all
  cases reading with
  | between => exact hstart h
  | within number tail more =>
      rw [step] at h ⊢
      split at h
      next hgoes =>
        rw [if_pos hgoes]
        cases more with
        | zero => cases h
        | succ more => exact fun heq => Reading.noConfusion heq
      next => cases h

theorem letters_ne_nil {reading : Reading} (h : reading ≠ between ∨ bytes ≠ []) :
    reading.letters bytes ≠ [] := by
  induction bytes generalizing reading with
  | nil =>
      cases reading with
      | between => exact absurd rfl (h.resolve_right (absurd rfl))
      | within => exact List.cons_ne_nil _ _
  | cons byte bytes ih =>
      intro hnil
      rw [letters_cons, List.append_eq_nil_iff] at hnil
      exact ih (.inl (step_ne_between hnil.1)) hnil.2

end Reading

/-! ## Cutting at a letter of ASCII -/

theorem letters_encode_append (cs : List Char) (rest : List UInt8) :
    letters (encode cs ++ rest) = cs ++ letters rest := by
  induction cs with
  | nil => rfl
  | cons c cs ih =>
      rw [encode_cons, List.append_assoc, letters, Reading.letters_encodeChar, ← letters, ih]
      rfl

@[simp] theorem letters_encode (cs : List Char) : letters (encode cs) = cs := by
  have h := letters_encode_append cs []
  rwa [List.append_nil, show letters [] = [] from rfl, List.append_nil] at h

@[simp] theorem text_ofText (text : String) : (ofText text).text = text := by
  rw [RawText.text, ofText, letters_encode, String.ofList_toList]

theorem letters_append_cons (hc : c.toNat < 128) (before after : List UInt8) :
    letters (before ++ asciiByte c :: after) = letters before ++ c :: letters after := by
  have hgeneral : ∀ (reading : Reading), reading.letters (before ++ asciiByte c :: after) =
      reading.letters before ++ c :: letters after := by
    induction before with
    | nil => exact fun reading => Reading.letters_ascii hc reading after
    | cons byte before ih =>
        intro reading
        rw [List.cons_append, Reading.letters_cons, ih, Reading.letters_cons, List.append_assoc]
  exact hgeneral .between

/-- Before the letter stand three of four bytes of one, and after it a first byte with a next one
that it does not take. -/
example : letters [0xF0, 0x9F, 0x98, 0x41, 0xE0, 0x80] =
    [replacement, 'A', replacement, replacement] := by
  decide

theorem mem_letters (hc : c.toNat < 128) : c ∈ letters bytes ↔ asciiByte c ∈ bytes := by
  refine ⟨Reading.asciiByte_mem_of_mem_letters hc, fun h => ?_⟩
  obtain ⟨before, after, rfl⟩ := List.append_of_mem h
  rw [letters_append_cons hc]
  exact List.mem_append_right _ List.mem_cons_self

theorem letters_eq_nil_iff : letters bytes = [] ↔ bytes = [] :=
  ⟨fun h => by_contra fun hne => Reading.letters_ne_nil (.inr hne) h, fun h => h ▸ rfl⟩

theorem letters_join (hc : c.toNat < 128) : ∀ pieces : List (List UInt8),
    letters (Text.join (asciiByte c) pieces) = Text.join c (pieces.map letters)
  | [] => rfl
  | [piece] => rfl
  | piece :: next :: pieces => by
      rw [Text.join_cons_cons, letters_append_cons hc, letters_join hc (next :: pieces)]
      rfl

theorem encode_join (hc : c.toNat < 128) : ∀ pieces : List (List Char),
    encode (Text.join c pieces) = Text.join (asciiByte c) (pieces.map encode)
  | [] => rfl
  | [piece] => rfl
  | piece :: next :: pieces => by
      rw [Text.join_cons_cons, encode_append, encode_cons, encodeChar_ascii hc,
        encode_join hc (next :: pieces)]
      rfl

theorem encode_letters_join (hc : c.toNat < 128) (pieces : List (List UInt8)) :
    encode (letters (Text.join (asciiByte c) pieces)) =
      Text.join (asciiByte c) (pieces.map fun piece => encode (letters piece)) := by
  rw [letters_join hc, encode_join hc, List.map_map]
  rfl

theorem encode_letters_cons (hc : c.toNat < 128) (rest : List UInt8) :
    encode (letters (asciiByte c :: rest)) = asciiByte c :: encode (letters rest) := by
  have hletters : letters (asciiByte c :: rest) = c :: letters rest :=
    letters_append_cons hc [] rest
  rw [hletters, encode_cons, encodeChar_ascii hc]
  rfl

/-- The pieces of the bytes of letters are the bytes of the pieces. -/
theorem split_encode (hc : c.toNat < 128) (cs : List Char) :
    Text.split (asciiByte c) (encode cs) = (Text.split c cs).map encode := by
  have hpieces := Text.split_ne_nil c cs
  conv_lhs => rw [← Text.join_split c cs, encode_join hc]
  refine Text.split_join (fun hnil => hpieces (List.map_eq_nil_iff.mp hnil)) fun piece hpiece => ?_
  obtain ⟨part, hpart, rfl⟩ := List.mem_map.mp hpiece
  exact fun hmem => Text.not_mem_of_mem_split hpart ((asciiByte_mem_encode hc).mp hmem)

/-- Where the rendering has a letter of ASCII the bytes have its byte, and what stands before
and after it is rendered on its own. -/
theorem exists_cut (hc : c.toNat < 128) {cs ds : List Char} (h : letters bytes = cs ++ c :: ds) :
    ∃ before after, bytes = before ++ asciiByte c :: after ∧ letters before = cs ∧
      letters after = ds := by
  induction hn : bytes.length using Nat.strong_induction_on generalizing bytes cs with
  | _ n ih =>
      have hmem : asciiByte c ∈ bytes :=
        (mem_letters hc).mp (h ▸ List.mem_append_right _ List.mem_cons_self)
      obtain ⟨before, after, rfl, hbefore⟩ := List.eq_append_cons_of_mem hmem
      rw [letters_append_cons hc] at h
      have hfirst : c ∉ letters before := fun hmem => hbefore ((mem_letters hc).mp hmem)
      obtain ⟨part, hcs, hrest⟩ | ⟨part, hletters, hrest⟩ := List.append_eq_append_iff.mp h
      · cases part with
        | nil =>
            rw [List.append_nil] at hcs
            exact ⟨before, after, rfl, hcs.symm, (List.cons.inj hrest).2⟩
        | cons d part =>
            obtain ⟨rfl, htail⟩ := List.cons.inj hrest
            obtain ⟨inner, last, rfl, hinner, hlast⟩ := ih after.length
              (by rw [← hn, List.length_append, List.length_cons]; omega) htail rfl
            refine ⟨before ++ asciiByte c :: inner, last, by simp, ?_, hlast⟩
            rw [letters_append_cons hc, hinner, hcs]
      · cases part with
        | nil =>
            rw [List.append_nil] at hletters
            exact ⟨before, after, rfl, hletters, (List.cons.inj hrest).2.symm⟩
        | cons d part =>
            obtain ⟨rfl, -⟩ := List.cons.inj hrest
            exact absurd (hletters ▸ List.mem_append_right _ List.mem_cons_self) hfirst

/-- A text of ASCII letters is at the start of the rendering where its bytes are at the start. -/
theorem encode_isPrefix_iff {needle : List Char} (h : IsAscii needle) :
    encode needle <+: bytes ↔ needle <+: letters bytes := by
  constructor
  · rintro ⟨rest, rfl⟩
    exact ⟨letters rest, (letters_encode_append needle rest).symm⟩
  · rintro ⟨rest, hrest⟩
    induction needle generalizing bytes with
    | nil => exact List.nil_prefix
    | cons c needle ih =>
        have hcut : letters bytes = [] ++ c :: (needle ++ rest) := hrest.symm
        obtain ⟨before, after, rfl, hbefore, hafter⟩ :=
          exists_cut (h c List.mem_cons_self) hcut
        obtain rfl := letters_eq_nil_iff.mp hbefore
        rw [encode_cons, encodeChar_ascii (h c List.mem_cons_self)]
        exact List.cons_prefix_cons.mpr
          ⟨rfl, ih (fun d hd => h d (List.mem_cons_of_mem c hd)) hafter.symm⟩

/-- A text of ASCII letters is in the rendering where its bytes are. -/
theorem encode_isInfix_iff {needle : List Char} (h : IsAscii needle) :
    encode needle <:+: bytes ↔ needle <:+: letters bytes := by
  cases needle with
  | nil => exact iff_of_true List.nil_infix List.nil_infix
  | cons c needle =>
      have hc := h c List.mem_cons_self
      have hneedle : encode (c :: needle) = asciiByte c :: encode needle := by
        rw [encode_cons, encodeChar_ascii hc]
        rfl
      constructor
      · rintro ⟨before, after, rfl⟩
        refine ⟨letters before, letters after, ?_⟩
        rw [hneedle, List.append_assoc, List.append_assoc, List.cons_append, List.cons_append,
          letters_append_cons hc, letters_encode_append]
      · rintro ⟨cs, ds, heq⟩
        rw [List.append_assoc, List.cons_append] at heq
        obtain ⟨before, after, rfl, -, hafter⟩ := exists_cut hc heq.symm
        have hrest : encode needle <+: after :=
          (encode_isPrefix_iff fun d hd => h d (List.mem_cons_of_mem c hd)).mpr ⟨ds, hafter.symm⟩
        rw [hneedle]
        exact (List.cons_prefix_cons.mpr ⟨rfl, hrest⟩).isInfix.trans
          (List.suffix_append before _).isInfix

/-- Only the bytes of a text of ASCII letters are rendered as that text. -/
theorem letters_eq_iff_of_ascii (h : IsAscii cs) :
    letters bytes = cs ↔ bytes = encode cs := by
  refine ⟨fun heq => ?_, fun heq => heq ▸ letters_encode cs⟩
  obtain ⟨rest, rfl⟩ : encode cs <+: bytes :=
    (encode_isPrefix_iff h).mpr (heq ▸ List.prefix_rfl)
  rw [letters_encode_append, List.append_right_eq_self, letters_eq_nil_iff] at heq
  rw [heq, List.append_nil]

/-! ## Raw texts that are texts -/

/-- The bytes of some letters. -/
def IsUtf8 (bytes : List UInt8) : Prop := encode (letters bytes) = bytes

instance : Decidable (IsUtf8 bytes) := inferInstanceAs (Decidable (encode (letters bytes) = bytes))

theorem isText_iff : raw.isText = true ↔ IsUtf8 raw.bytes := beq_iff_eq

theorem isUtf8_encode (cs : List Char) : IsUtf8 (encode cs) := by
  rw [IsUtf8, letters_encode]

theorem isUtf8_iff : IsUtf8 bytes ↔ ∃ cs, encode cs = bytes := by
  constructor
  · exact fun h => ⟨letters bytes, h⟩
  · rintro ⟨cs, rfl⟩
    exact isUtf8_encode cs

/-- Pieces that are bytes of texts are joined to such bytes. -/
theorem isUtf8_join (hc : c.toNat < 128) {pieces : List (List UInt8)}
    (h : ∀ piece ∈ pieces, IsUtf8 piece) : IsUtf8 (Text.join (asciiByte c) pieces) := by
  have hpieces : pieces.map (fun piece => encode (letters piece)) = pieces :=
    (List.map_congr_left h).trans (List.map_id' pieces)
  rw [IsUtf8, encode_letters_join hc, hpieces]

/-- So are the pieces that such bytes are cut into. -/
theorem isUtf8_of_mem_split (hc : c.toNat < 128) (h : IsUtf8 bytes) {piece : List UInt8}
    (hpiece : piece ∈ Text.split (asciiByte c) bytes) : IsUtf8 piece := by
  rw [← h, split_encode hc] at hpiece
  obtain ⟨part, -, rfl⟩ := List.mem_map.mp hpiece
  exact isUtf8_encode part

theorem bytes_ofText (text : String) : (ofText text).bytes = encode text.toList := rfl

theorem ofText_injective : Function.Injective ofText :=
  Function.LeftInverse.injective text_ofText

theorem bytes_ofText_text (raw : RawText) :
    (ofText raw.text).bytes = encode (letters raw.bytes) := by
  rw [bytes_ofText, text, String.toList_ofList]

/-- A raw text that is a text is read back from its rendering as it was. -/
theorem ofText_text_iff : ofText raw.text = raw ↔ IsUtf8 raw.bytes := by
  rw [← bytes_injective.eq_iff, bytes_ofText_text]
  rfl

theorem text?_eq_some_iff {text : String} :
    raw.text? = some text ↔ IsUtf8 raw.bytes ∧ raw.text = text := by
  rw [text?, Option.ite_none_right_eq_some, Option.some_inj, isText_iff]

theorem isUtf8_append (h : IsUtf8 before) (h' : IsUtf8 after) : IsUtf8 (before ++ after) := by
  obtain ⟨cs, rfl⟩ := isUtf8_iff.mp h
  obtain ⟨ds, rfl⟩ := isUtf8_iff.mp h'
  exact isUtf8_iff.mpr ⟨cs ++ ds, encode_append cs ds⟩

end RawText

end BundleConfig
