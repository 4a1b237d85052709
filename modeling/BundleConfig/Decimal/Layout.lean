import BundleConfig.Decimal.Shortest

/-!
# Layouts of decimals

A *layout* says how a decimal is written: which leading powers of ten are
written positionally and which with an exponent, and whether an integral number
keeps its `.0`.

In a positional text zeros fill the places between the digits and the point.
In an exponent text one digit stands before the point, the point is left out
when no digit follows it, and the exponent has its sign, plus included.
-/

namespace BundleConfig

/-- The decisions of a number format. -/
structure Layout where
  /-- The least leading power of ten that is written positionally, if bounded. -/
  lowest : Option Int
  /-- The greatest leading power of ten that is written positionally, if bounded. -/
  highest : Option Int
  /-- Whether an integral number ends in `.0`. -/
  keepsPoint : Bool

namespace Layout

/-- Whether a number of this leading power of ten is written positionally. -/
def isPositional (l : Layout) (leading : Int) : Bool :=
  l.lowest.all (fun low => decide (low ≤ leading)) &&
    l.highest.all (fun high => decide (leading ≤ high))

/-- The decimal without an exponent. -/
def positional (l : Layout) (d : Decimal) : List Char :=
  let digits := Nat.toDigits 10 d.digits
  let point := if l.keepsPoint then ['.', '0'] else []
  match d.power with
  | .ofNat n => digits ++ List.replicate n '0' ++ point
  | .negSucc n =>
      let places := n + 1
      let padded := List.replicate (places + 1 - digits.length) '0' ++ digits
      padded.take (padded.length - places) ++ '.' :: padded.drop (padded.length - places)

/-- The decimal with an exponent. -/
def scientific (d : Decimal) : List Char :=
  let sign := if d.leadingPower < 0 then '-' else '+'
  let power := sign :: Nat.toDigits 10 d.leadingPower.natAbs
  match Nat.toDigits 10 d.digits with
  | [digit] => digit :: 'e' :: power
  | digit :: rest => digit :: '.' :: rest ++ 'e' :: power
  | [] => 'e' :: power

/-- The text of a double: its sign and the layout of its shortest decimal. -/
def render (l : Layout) (x : Double) : List Char :=
  let sign := if x.isNegative then ['-'] else []
  if x.isFinite then
    let d := x.shortest
    sign ++ (if l.isPositional d.leadingPower then l.positional d else scientific d)
  else sign ++ ['i', 'n', 'f']

end Layout

end BundleConfig
