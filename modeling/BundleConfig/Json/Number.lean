import BundleConfig.Json.Basic

/-!
# Written numbers

A written number is a run of digits, a fraction and an exponent, the last two
optional.  Without fraction and exponent it is an integer as long as its
magnitude fits 64 bits.  `-0` is a double, as are all other numbers.

A double is read in two steps.  Its *significand* is made of the leading digits
that fit 64 bits together.  An integer digit that no longer fits raises the
power of ten by one, a fraction digit that no longer fits is dropped.  Then the
significand is scaled by its power of ten, with one rounding per step of at most
308 powers.  A number too large for a double is refused, one too small becomes
zero.
-/

namespace BundleConfig

namespace Number

/-- The value of a digit. -/
def digitValue (c : Char) : Nat := c.toNat - '0'.toNat

/-- The significand after reading digits as long as it fits 64 bits, and how
many digits did not fit. -/
def absorb (significand : Nat) : List Char → Nat × Nat
  | [] => (significand, 0)
  | c :: rest =>
      let next := significand * 10 + digitValue c
      if next < Nat.pow 2 64 then absorb next rest else (significand, rest.length + 1)

/-- A double divided by a power of ten, 308 powers at a time. -/
def shrink (x : Double) (places : Nat) : Double :=
  if places ≤ 308 then x.divide (.ofDecimal 1 places)
  else if x.isZero then x
  else shrink (x.divide (.ofDecimal 1 308)) (places - 308)
termination_by places
decreasing_by omega

/-- The double `significand · 10 ^ power`, if it is not too large. -/
def scale? (significand : Nat) (power : Int) : Option Double :=
  let x := Double.ofInt significand
  match power with
  | .negSucc n => some (shrink x (n + 1))
  | .ofNat n =>
      if n ≤ 308 then
        let y := x.multiply (.ofDecimal 1 n)
        if y.isFinite then some y else none
      else if significand = 0 then some x
      else none

/-- The parts of a written number. -/
structure Written where
  /-- Whether a minus sign stands before it. -/
  negative : Bool
  /-- The digits before the point. -/
  whole : List Char
  /-- The digits after the point, if there is one. -/
  fraction : Option (List Char)
  /-- Whether the exponent is negative and its digits, if there is one. -/
  exponent : Option (Bool × List Char)

/-- The number that is written, if it is not too large for a double. -/
def ofWritten? (w : Written) : Option Number :=
  let (significand, left) := absorb 0 w.whole
  let signed (x : Double) : Number := .double (if w.negative then x.negate else x)
  match w.fraction, w.exponent with
  | none, none =>
      if left ≠ 0 then (scale? significand left).map signed
      else if !w.negative then some (.integer significand)
      else if significand = 0 ∨ Nat.pow 2 63 < significand then some (signed (.ofInt significand))
      else some (.integer (-(significand : Int)))
  | fraction, exponent =>
      let digits := fraction.getD []
      let (significand, dropped) := absorb significand digits
      let power : Int := left - (digits.length - dropped : Nat)
      match exponent with
      | none => (scale? significand power).map signed
      | some (below, places) =>
          let magnitude := places.foldl (fun n c => n * 10 + digitValue c) 0
          if magnitude < Nat.pow 2 31 then
            (scale? significand (if below then power - magnitude else power + magnitude)).map signed
          else if significand = 0 ∨ below then some (signed .zero)
          else none

end Number

end BundleConfig
