/-!
# Doubles

A *double* is a binary number of 64 bits, kept as its bits.  Two doubles are
the same value of the type exactly when their bits are, so a tree that holds
doubles has a decidable equality.  The numeric comparison is `Double.equals`.
It identifies the two zeros.

The four operations round once, to nearest with ties to even.  Decimals are rounded
so too, by exact arithmetic on natural numbers.  The remainder is exact.  It is
computed on integers: both operands are multiples of one power of two, and the
remainder of the multiples is a multiple smaller than a double's precision.

`Double.integer?` reads the integer a double stands for, when there is one of
magnitude below `2 ^ 63`.
-/

namespace BundleConfig

/-- A binary number of 64 bits: a sign bit, eleven exponent bits, 52 fraction bits. -/
structure Double where
  /-- The bits, the sign in the highest one. -/
  bits : UInt64
deriving DecidableEq, Inhabited

namespace Double

/-! ## Conversion -/

/-- The number as the machine computes with it. -/
def toFloat (x : Double) : Float := Float.ofBits x.bits

/-- The bits of a computed number. -/
def ofFloat (x : Float) : Double := ⟨x.toBits⟩

/-- The double nearest to an integer, ties to even. -/
def ofInt (i : Int) : Double := ofFloat (Float.ofInt i)

/-- The natural number nearest to a quotient, ties to even. -/
def nearest (numerator denominator : Nat) : Nat :=
  let below := numerator / denominator
  let twice := 2 * (numerator % denominator)
  if denominator < twice ∨ twice = denominator ∧ below % 2 = 1 then below + 1 else below

/-- The greatest power of two that is at most a positive quotient. -/
def leadingBit (numerator denominator : Nat) : Int :=
  let guess : Int := (Nat.log2 numerator : Int) - Nat.log2 denominator
  if numerator * Nat.pow 2 (-guess).toNat < denominator * Nat.pow 2 guess.toNat then guess - 1
  else guess

/-- The double nearest to a quotient, ties to even.  One that is too large becomes infinite.  The
highest bit of the nearest integer adds to the exponent bits, and so does a carry out of it. -/
def ofQuotient (numerator denominator : Nat) : Double :=
  if numerator = 0 then ⟨0⟩
  else
    let power := max (leadingBit numerator denominator - 52) (-1074)
    let m := nearest (numerator * Nat.pow 2 (-power).toNat) (denominator * Nat.pow 2 power.toNat)
    ⟨.ofNat (min ((power + 1074).toNat * Nat.pow 2 52 + m) (0x7ff * Nat.pow 2 52))⟩

/-- The double nearest to `digits · 10 ^ power`, ties to even. -/
def ofDecimal (digits : Nat) (power : Int) : Double :=
  ofQuotient (digits * Nat.pow 10 power.toNat) (Nat.pow 10 (-power).toNat)

/-! ## Parts -/

/-- Whether the sign bit is set.  It is for `-0.0`. -/
def isNegative (x : Double) : Bool := x.bits >>> 63 == 1

/-- The exponent bits as a number. -/
def exponentBits (x : Double) : Nat := ((x.bits >>> 52) &&& 0x7ff).toNat

/-- The fraction bits as a number. -/
def fractionBits (x : Double) : Nat := (x.bits &&& 0xfffffffffffff).toNat

/-- Neither infinite nor undefined. -/
def isFinite (x : Double) : Bool := x.exponentBits != 0x7ff

/-- The integer `m` of the magnitude `m · 2 ^ q` of a finite double. -/
def significand (x : Double) : Nat :=
  if x.exponentBits = 0 then x.fractionBits else x.fractionBits + Nat.pow 2 52

/-- The power `q` of the magnitude `m · 2 ^ q` of a finite double. -/
def exponent (x : Double) : Int :=
  if x.exponentBits = 0 then -1074 else x.exponentBits - 1075

/-- The double `± m · 2 ^ q`, for a product that is a double. -/
def ofParts (negative : Bool) (m : Nat) (q : Int) : Double :=
  let magnitude := (Float.ofNat m).scaleB q
  ofFloat (if negative then -magnitude else magnitude)

/-! ## Arithmetic -/

/-- Zero with a clear sign bit. -/
def zero : Double := ⟨0⟩

/-- The number with its sign bit turned. -/
def negate (x : Double) : Double := ofFloat (-x.toFloat)

/-- The rounded sum. -/
def add (x y : Double) : Double := ofFloat (x.toFloat + y.toFloat)

/-- The rounded difference. -/
def subtract (x y : Double) : Double := ofFloat (x.toFloat - y.toFloat)

/-- The rounded product. -/
def multiply (x y : Double) : Double := ofFloat (x.toFloat * y.toFloat)

/-- The rounded quotient. -/
def divide (x y : Double) : Double := ofFloat (x.toFloat / y.toFloat)

/-- What neither a sum nor a quotient of numbers is. -/
def undefined : Double := ofFloat (0.0 / 0.0)

/-- What is left of `x` after taking `y` from it as often as fits, with the sign
of `x`.  There is no such number for an infinite `x` or for `y = 0`. -/
def remainder (x y : Double) : Double :=
  if !x.isFinite || y.significand = 0 then undefined
  else if !y.isFinite then
    if y.fractionBits = 0 then x else undefined
  else
    let q := min x.exponent y.exponent
    let m := x.significand * Nat.pow 2 (x.exponent - q).toNat
    let n := y.significand * Nat.pow 2 (y.exponent - q).toNat
    ofParts x.isNegative (m % n) q

/-! ## Comparison -/

/-- Numeric equality.  The two zeros are equal. -/
def equals (x y : Double) : Bool := x.toFloat == y.toFloat

/-- Numeric order. -/
def less (x y : Double) : Bool := x.toFloat < y.toFloat

/-- Numeric order with equality. -/
def lessEqual (x y : Double) : Bool := x.toFloat <= y.toFloat

/-- Whether the number is one of the two zeros. -/
def isZero (x : Double) : Bool := x.exponentBits == 0 && x.fractionBits == 0

/-- The magnitude of a finite double, when it is an integer and not far above `2 ^ 63`. -/
def magnitude? (x : Double) : Option Nat :=
  match x.exponent with
  | .ofNat n => if n ≤ 63 then some (x.significand * Nat.pow 2 n) else none
  | .negSucc n =>
      if x.significand % Nat.pow 2 (n + 1) = 0 then some (x.significand / Nat.pow 2 (n + 1))
      else none

/-- The integer the double equals, when its magnitude is below `2 ^ 63`. -/
def integer? (x : Double) : Option Int :=
  if x.isFinite then
    match x.magnitude? with
    | some m => if m < Nat.pow 2 63 then some (if x.isNegative then -(m : Int) else m) else none
    | none => none
  else none

end Double

end BundleConfig
