import BundleConfig.Decimal.Double

/-!
# Shortest decimals

The *shortest decimal* of a positive double is the decimal of fewest digits
that reads back as the double, and of those the nearest to it.

A decimal reads back as `m · 2 ^ q` when it lies in the interval of the reals
that round there.  The interval reaches half way to both neighbours, and its
ends belong to it exactly when `m` is even.  Below a power of two the neighbour
is half as far.

`Double.shortest` tries the digit counts from one to seventeen.  For each it
takes the multiples of the unit below and above the number and keeps those in
the interval.  The first count with a hit wins, of two hits the nearer, and of
two equally near the even one.  Everything is exact arithmetic on natural
numbers.
-/

namespace BundleConfig

/-- The decimal `digits · 10 ^ power`. -/
structure Decimal where
  /-- The digits, as one number. -/
  digits : Nat
  /-- The power of ten of the last digit. -/
  power : Int
deriving DecidableEq, Inhabited

namespace Decimal

/-- How many digits a number is written with. -/
def digitCount (n : Nat) : Nat := (Nat.toDigits 10 n).length

/-- The power of ten of the first digit. -/
def leadingPower (d : Decimal) : Int := d.power + digitCount d.digits - 1

/-- The same value without zeros at the end, at most `fuel` of them. -/
def trim (d : Decimal) : (fuel : Nat) → Decimal
  | 0 => d
  | fuel + 1 =>
      if d.digits ≠ 0 ∧ d.digits % 10 = 0 then trim ⟨d.digits / 10, d.power + 1⟩ fuel else d

end Decimal

namespace Double

/-- The interval of reals that round to a double, over one denominator.  All
four numbers are numerators. -/
structure Interval where
  /-- The lower end. -/
  low : Nat
  /-- The double itself. -/
  value : Nat
  /-- The upper end. -/
  high : Nat
  /-- The common denominator. -/
  denominator : Nat
  /-- Whether the ends round to the double too. -/
  closed : Bool

/-- The interval of a finite double that is not zero. -/
def interval (x : Double) : Interval :=
  let m := x.significand
  let quarter := x.exponent - 2
  let up := Nat.pow 2 quarter.toNat
  let below := if m = Nat.pow 2 52 ∧ x.exponentBits > 1 then 1 else 2
  { low := (4 * m - below) * up
    value := 4 * m * up
    high := (4 * m + 2) * up
    denominator := Nat.pow 2 (-quarter).toNat
    closed := m % 2 == 0 }

/-- Whether `numerator / denominator` lies in the interval. -/
def Interval.contains (i : Interval) (numerator denominator : Nat) : Bool :=
  let low := i.low * denominator
  let high := i.high * denominator
  let here := numerator * i.denominator
  if i.closed then low ≤ here && here ≤ high else low < here && here < high

/-- The largest power of ten that is at most `value / denominator`, searched
upward from `start`. -/
def powerBelow (value denominator : Nat) (start : Int) : (fuel : Nat) → Int
  | 0 => start
  | fuel + 1 =>
      let next := start + 1
      if Nat.pow 10 next.toNat * denominator ≤ value * Nat.pow 10 (-next).toNat then
        powerBelow value denominator next fuel
      else start

/-- The hit on the grid of the multiples of `10 ^ power`, if there is one. -/
def Interval.hit? (i : Interval) (power : Int) : Option Nat :=
  let up := Nat.pow 10 power.toNat
  let down := Nat.pow 10 (-power).toNat
  let below := i.value * down / (i.denominator * up)
  let above := below + 1
  let twice := 2 * (i.value * down)
  let middle := (below + above) * (i.denominator * up)
  match i.contains (below * up) down, i.contains (above * up) down with
  | true, false => some below
  | false, true => some above
  | true, true =>
      if twice < middle then some below
      else if middle < twice then some above
      else some (if below % 2 = 0 then below else above)
  | false, false => none

/-- The first hit with `count` digits or more, trying `fuel` further counts. -/
def Interval.firstHit (i : Interval) (leading : Int) (count : Nat) : (fuel : Nat) → Decimal
  | 0 => ⟨0, 0⟩
  | fuel + 1 =>
      let power := leading - count + 1
      match i.hit? power with
      | some digits => Decimal.trim ⟨digits, power⟩ 18
      | none => firstHit i leading (count + 1) fuel

/-- An exponent of ten that is below the leading one, off by at most one and
the error of `log 2`: `⌊log₂ x⌋ · 0.30103`, less one. -/
def leadingGuess (x : Double) : Int :=
  (x.exponent + (Nat.log2 x.significand : Int)) * 30103 / 100000 - 1

/-- The shortest decimal of the magnitude of a finite double. -/
def shortest (x : Double) : Decimal :=
  if x.significand = 0 then ⟨0, 0⟩
  else
    let i := x.interval
    let leading := powerBelow i.value i.denominator (x.leadingGuess - 1) 4
    i.firstHit leading 1 18

end Double

end BundleConfig
