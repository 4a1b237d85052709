import BundleConfig.Decimal.Double
import Mathlib.Algebra.Group.Nat.Defs
import Mathlib.Tactic.ByContra

/-!
# Integers as doubles

Reading a decimal rounds it, but not an integer below `2 ^ 53`.  A double has 53 bits for its
magnitude, so the digits of such an integer are read as the one double that stands for it
(`Double.eq_ofDecimal_iff`).

*Scale.*  The bits of an integer are moved until the highest one is the 53rd.  The integer
alone tells by how many places (`Double.log2_of_scaled`), and thereby the exponent of its
double.
-/

namespace BundleConfig

namespace Double

variable {x : Double} {n m j : Nat}

/-! ## Parts of the bits -/

theorem eq_of_toNat_bits {x y : Double} (h : x.bits.toNat = y.bits.toNat) : x = y := by
  cases x
  cases y
  exact congrArg mk (UInt64.toNat_inj.mp h)

theorem exponentBits_eq (x : Double) : x.exponentBits = x.bits.toNat / 2 ^ 52 % 2 ^ 11 := by
  have hmask : (0x7ff : UInt64).toNat = 2 ^ 11 - 1 := rfl
  rw [exponentBits, UInt64.toNat_and, UInt64.toNat_shiftRight, hmask,
    Nat.and_two_pow_sub_one_eq_mod, Nat.shiftRight_eq_div_pow]
  rfl

theorem fractionBits_eq (x : Double) : x.fractionBits = x.bits.toNat % 2 ^ 52 := by
  have hmask : (0xfffffffffffff : UInt64).toNat = 2 ^ 52 - 1 := rfl
  rw [fractionBits, UInt64.toNat_and, hmask, Nat.and_two_pow_sub_one_eq_mod]

theorem isNegative_eq_false_iff : x.isNegative = false ↔ x.bits.toNat < 2 ^ 63 := by
  have hsign : (x.bits >>> 63).toNat = x.bits.toNat / 2 ^ 63 := by
    rw [UInt64.toNat_shiftRight, Nat.shiftRight_eq_div_pow]
    rfl
  have hbits := x.bits.toNat_lt
  rw [isNegative, beq_eq_false_iff_ne, ne_eq, ← UInt64.toNat_inj, hsign, UInt64.toNat_one]
  omega

/-- Without a sign, the bits are those of the exponent before those of the fraction. -/
theorem toNat_bits (h : x.isNegative = false) :
    x.bits.toNat = x.exponentBits * 2 ^ 52 + x.fractionBits := by
  rw [isNegative_eq_false_iff] at h
  rw [exponentBits_eq, fractionBits_eq]
  omega

theorem fractionBits_lt (x : Double) : x.fractionBits < 2 ^ 52 := by
  rw [fractionBits_eq]
  omega

/-! ## Scaled integers -/

theorem log2_of_scaled (hlow : 2 ^ 52 ≤ n * 2 ^ j) (hhigh : n * 2 ^ j < 2 ^ 53) :
    n.log2 + j = 52 := by
  have hne : n ≠ 0 := by
    rintro rfl
    rw [Nat.zero_mul] at hlow
    exact absurd hlow (by decide)
  have hlower : 2 ^ (n.log2 + j) ≤ n * 2 ^ j := by
    rw [Nat.pow_add]
    exact Nat.mul_le_mul_right _ (Nat.log2_self_le hne)
  have hupper : n * 2 ^ j < 2 ^ (n.log2 + 1 + j) := by
    rw [Nat.pow_add]
    exact Nat.mul_lt_mul_of_pos_right Nat.lt_log2_self (Nat.two_pow_pos j)
  have hle := (Nat.pow_lt_pow_iff_right (by decide)).mp (Nat.lt_of_le_of_lt hlower hhigh)
  have hge := (Nat.pow_lt_pow_iff_right (by decide)).mp (Nat.lt_of_le_of_lt hlow hupper)
  omega

/-- An integer below `2 ^ 53` with its highest bit moved to the 53rd place. -/
def scaled (n : Nat) : Nat := n * 2 ^ (52 - n.log2)

theorem log2_le (hn : n ≠ 0) (h : n < 2 ^ 53) : n.log2 ≤ 52 :=
  Nat.lt_succ_iff.mp ((Nat.log2_lt hn).mpr h)

theorem le_scaled (hn : n ≠ 0) (h : n < 2 ^ 53) : 2 ^ 52 ≤ scaled n :=
  calc 2 ^ 52 = 2 ^ n.log2 * 2 ^ (52 - n.log2) := by
        rw [← Nat.pow_add, Nat.add_sub_cancel' (log2_le hn h)]
    _ ≤ n * 2 ^ (52 - n.log2) := Nat.mul_le_mul_right _ (Nat.log2_self_le hn)

theorem scaled_lt (hn : n ≠ 0) (h : n < 2 ^ 53) : scaled n < 2 ^ 53 := by
  have hlog := log2_le hn h
  calc n * 2 ^ (52 - n.log2) < 2 ^ (n.log2 + 1) * 2 ^ (52 - n.log2) :=
        Nat.mul_lt_mul_of_pos_right Nat.lt_log2_self (Nat.two_pow_pos _)
    _ = 2 ^ 53 := by
        rw [← Nat.pow_add]
        congr 1
        omega

/-! ## Rounding -/

/-- A natural number is nearest to itself. -/
theorem nearest_one (m : Nat) : nearest m 1 = m := by
  simp [nearest, Nat.mod_one]

theorem leadingBit_one (hn : n ≠ 0) : leadingBit n 1 = n.log2 := by
  have hle := Nat.log2_self_le hn
  have hguess : (n.log2 : Int) - Nat.log2 1 = n.log2 := Int.sub_zero _
  rw [leadingBit, hguess, if_neg]
  simpa using hle

/-- The bits of the double that is read.  The highest bit of the scaled integer is none of its
fraction and adds one to the exponent. -/
theorem toNat_bits_ofDecimal (hn : n ≠ 0) (h : n < 2 ^ 53) :
    (ofDecimal n 0).bits.toNat = (n.log2 + 1022) * 2 ^ 52 + scaled n := by
  have hlog := log2_le hn h
  have hpower : max (leadingBit n 1 - 52) (-1074) = (n.log2 : Int) - 52 := by
    rw [leadingBit_one hn]
    omega
  have hup : (-((n.log2 : Int) - 52)).toNat = 52 - n.log2 := by omega
  have hdown : ((n.log2 : Int) - 52).toNat = 0 := by omega
  have hexponent : ((n.log2 : Int) - 52 + 1074).toNat = n.log2 + 1022 := by omega
  have hnearest : nearest (n * 2 ^ (52 - n.log2)) (1 * 2 ^ 0) = scaled n :=
    nearest_one _
  have hquotient : ofDecimal n 0 = ofQuotient n 1 := by
    show ofQuotient (n * 1) 1 = _
    rw [Nat.mul_one]
  have hlt := scaled_lt hn h
  rw [hquotient, ofQuotient, if_neg hn]
  simp only [hpower, hup, hdown, hexponent, Nat.pow_eq, hnearest]
  rw [Nat.min_eq_left (by omega)]
  exact UInt64.toNat_ofNat_of_lt' (by rw [UInt64.size]; omega)

/-- The sign, the exponent and the magnitude of the double that is read. -/
theorem parts_ofDecimal (hn : n ≠ 0) (h : n < 2 ^ 53) :
    (ofDecimal n 0).isNegative = false ∧ (ofDecimal n 0).exponentBits = n.log2 + 1023 ∧
      (ofDecimal n 0).significand = scaled n := by
  have hlog := log2_le hn h
  have hlow := le_scaled hn h
  have hhigh := scaled_lt hn h
  have hbits := toNat_bits_ofDecimal hn h
  have hexponent : (ofDecimal n 0).exponentBits = n.log2 + 1023 := by
    rw [exponentBits_eq]
    omega
  refine ⟨isNegative_eq_false_iff.mpr (by omega), hexponent, ?_⟩
  rw [significand, if_neg (by omega), fractionBits_eq, Nat.pow_eq]
  omega

/-! ## The integer of a double -/

theorem two_pow_le_significand (h : x.exponentBits ≠ 0) : 2 ^ 52 ≤ x.significand := by
  rw [significand, if_neg h]
  exact Nat.le_add_left _ _

theorem integer?_eq_some_iff (hsign : x.isNegative = false) (h : n < 2 ^ 63) :
    x.integer? = some (n : Int) ↔ x.isFinite = true ∧ x.magnitude? = some n := by
  rw [integer?]
  cases x.isFinite <;> cases x.magnitude? <;> simp [hsign]
  omega

/-- An integer below `2 ^ 53` is the magnitude of a double that has it as its significant
bits, moved to the left. -/
theorem magnitude?_eq_some_iff (h : n < 2 ^ 53) : x.magnitude? = some n ↔
    ∃ j : Nat, x.exponent = -j ∧ x.significand = n * 2 ^ j := by
  rw [magnitude?]
  cases hexponent : x.exponent with
  | ofNat e =>
      have hbits : x.exponentBits ≠ 0 := by
        intro hbits
        rw [exponent, if_pos hbits] at hexponent
        cases hexponent
      have hlow := two_pow_le_significand hbits
      constructor
      · intro hsome
        obtain ⟨-, hsome⟩ := Option.ite_none_right_eq_some.mp hsome
        have hn : n = x.significand * 2 ^ e := (Option.some.inj hsome).symm
        have he : e = 0 := by
          by_contra hne
          have hpow : 2 ^ 1 ≤ 2 ^ e := Nat.pow_le_pow_right (by decide) (by omega)
          have hmul := Nat.mul_le_mul hlow hpow
          omega
        subst he
        exact ⟨0, rfl, by simpa using hn.symm⟩
      · rintro ⟨j, hj, hsignificand⟩
        obtain ⟨rfl, rfl⟩ : e = 0 ∧ j = 0 := by
          rw [Int.ofNat_eq_natCast] at hj
          omega
        simpa using hsignificand
  | negSucc i =>
      constructor
      · intro hsome
        obtain ⟨hmod, hdiv⟩ := Option.ite_none_right_eq_some.mp hsome
        refine ⟨i + 1, rfl, ?_⟩
        rw [← Option.some.inj hdiv]
        exact (Nat.div_mul_cancel (Nat.dvd_of_mod_eq_zero hmod)).symm
      · rintro ⟨j, hj, hsignificand⟩
        obtain rfl : j = i + 1 := by omega
        rw [hsignificand]
        simp only [Nat.pow_eq]
        rw [Nat.mul_mod_left, if_pos rfl, Nat.mul_div_cancel _ (Nat.two_pow_pos _)]

theorem integer?_ofDecimal (h : n < 2 ^ 53) :
    (ofDecimal n 0).isNegative = false ∧ (ofDecimal n 0).integer? = some (n : Int) := by
  by_cases hn : n = 0
  · subst hn
    obtain ⟨j, hexponent⟩ : ∃ j : Nat, (ofDecimal 0 0).exponent = -j := ⟨1074, rfl⟩
    refine ⟨rfl, (integer?_eq_some_iff rfl (by decide)).mpr ⟨rfl, ?_⟩⟩
    exact (magnitude?_eq_some_iff h).mpr ⟨j, hexponent, (Nat.zero_mul _).symm⟩
  · obtain ⟨hsign, hexponent, hsignificand⟩ := parts_ofDecimal hn h
    have hlog := log2_le hn h
    refine ⟨hsign, (integer?_eq_some_iff hsign (by omega)).mpr ⟨?_, ?_⟩⟩
    · rw [isFinite, hexponent, bne_iff_ne]
      omega
    · refine (magnitude?_eq_some_iff h).mpr ⟨52 - n.log2, ?_, hsignificand⟩
      rw [exponent, hexponent, if_neg (by omega)]
      omega

/-- The significant bits of a positive integer stand under an exponent that is not the
lowest. -/
theorem exponentBits_of_magnitude (hn : n ≠ 0) (hexponent : x.exponent = -j)
    (hsignificand : x.significand = n * 2 ^ j) :
    x.exponentBits + j = 1075 ∧ x.fractionBits + 2 ^ 52 = n * 2 ^ j := by
  by_cases hbits : x.exponentBits = 0
  · rw [exponent, if_pos hbits] at hexponent
    rw [significand, if_pos hbits] at hsignificand
    have hpow : 2 ^ 52 ≤ 2 ^ j := Nat.pow_le_pow_right (by decide) (by omega)
    have hmul : 1 * 2 ^ j ≤ n * 2 ^ j := Nat.mul_le_mul_right _ (Nat.pos_of_ne_zero hn)
    have hlt := fractionBits_lt x
    omega
  · rw [exponent, if_neg hbits] at hexponent
    rw [significand, if_neg hbits, Nat.pow_eq] at hsignificand
    exact ⟨by omega, hsignificand⟩

/-- The digits of an integer below `2 ^ 53` are read as the double that stands for it. -/
theorem eq_ofDecimal_iff (h : n < 2 ^ 53) :
    x = ofDecimal n 0 ↔ x.isNegative = false ∧ x.integer? = some (n : Int) := by
  refine ⟨fun hx => hx ▸ integer?_ofDecimal h, fun ⟨hsign, hinteger⟩ => ?_⟩
  obtain ⟨-, hmagnitude⟩ := (integer?_eq_some_iff hsign (by omega)).mp hinteger
  obtain ⟨j, hexponent, hsignificand⟩ := (magnitude?_eq_some_iff h).mp hmagnitude
  have hbits := toNat_bits hsign
  apply eq_of_toNat_bits
  by_cases hn : n = 0
  · have hzero : x.exponentBits = 0 := by
      by_contra hne
      have hlow := two_pow_le_significand hne
      rw [hsignificand, hn, Nat.zero_mul] at hlow
      exact absurd hlow (by decide)
    rw [significand, if_pos hzero, hn, Nat.zero_mul] at hsignificand
    rw [hbits, hzero, hsignificand, hn]
    rfl
  · obtain ⟨hpower, hfraction⟩ := exponentBits_of_magnitude hn hexponent hsignificand
    have hlt := fractionBits_lt x
    have hlog : n.log2 + j = 52 := log2_of_scaled (by omega) (by omega)
    have hscaled : scaled n = n * 2 ^ j := by
      rw [scaled, ← hlog, Nat.add_sub_cancel_left]
    rw [hbits, toNat_bits_ofDecimal hn h]
    omega

end Double

end BundleConfig
