import BundleConfig.Expression.Problem
import BundleConfig.Expression.Tree

/-!
# Values of expressions

What the operators and the accesses do with values.

*Truth.*  `null`, `false`, the zeros and the empty string are false, everything
else is true.

*Numbers.*  Arithmetic works on doubles.  A result that is integral and below
`2 ^ 63` is an integer again.  A result that is not finite is an error.

*Equality.*  Two numbers are compared as doubles.  Anything else is compared as a
tree, so numbers inside arrays keep their kinds apart.

*Properties.*  Asking `null` for a property is an error.  A property that a value
does not have is `null`.
-/

namespace BundleConfig

namespace Expression

/-- Whether a value counts as true. -/
def isTruthy : Json → Bool
  | .null => false
  | .bool flag => flag
  | .number n => !n.toDouble.isZero
  | .string text => !text.isEmpty
  | .array _ => true
  | .object _ => true

/-- Whether two values are equal for `==`. -/
def alike : Json → Json → Bool
  | .number x, .number y => x.toDouble.equals y.toDouble
  | v, w => v.equal w

/-- A value as a part of a longer string. -/
def display : Json → String
  | .string text => text
  | v => v.toCompact

/-- The double of a number. -/
def toNumber : Json → Except ExpressionProblem Double
  | .number n => .ok n.toDouble
  | v => .error (.notNumber v)

/-- The value of a computed double. -/
def ofResult (x : Double) : Except ExpressionProblem Json :=
  if x.isFinite then .ok (.number (.ofDouble x)) else .error .notFinite

/-- What a step leads to from a value. -/
def property (v : Json) (step : Segment) : Except ExpressionProblem Json :=
  match v, step with
  | .null, step => .error (.propertyOfNull step)
  | .array items, .key name =>
      .ok (if name = "length" then .ofNat items.length else .null)
  | .string text, .key name =>
      .ok (if name = "length" then .ofNat text.toList.length else .null)
  | .object entries, .key name => .ok ((Table.get? entries name).getD .null)
  | .array items, .index position => .ok ((items[position]?).getD .null)
  | .string text, .index position =>
      .ok (((text.toList[position]?).map fun c => .string (String.singleton c)).getD .null)
  | _, _ => .ok .null

/-- The doubles of two numbers, the left one first. -/
def numbers (left right : Json) : Except ExpressionProblem (Double × Double) := do
  let x ← toNumber left
  let y ← toNumber right
  pure (x, y)

/-- Two values compared, strings by their characters and numbers by value. -/
def compare (strings : String → String → Bool) (doubles : Double → Double → Bool)
    (left right : Json) : Except ExpressionProblem Json :=
  match left, right with
  | .string a, .string b => .ok (.bool (strings a b))
  | left, right => do
      let (x, y) ← numbers left right
      pure (.bool (doubles x y))

/-- The value of an arithmetic operation. -/
def arithmetic (operation : Double → Double → Double) (left right : Json) :
    Except ExpressionProblem Json := do
  let (x, y) ← numbers left right
  ofResult (operation x y)

/-- The value of an operator on two values. -/
def applyBinary (operator : BinaryOperator) (left right : Json) : Except ExpressionProblem Json :=
  match operator with
  | .add =>
      if left.isString || right.isString then .ok (.string (display left ++ display right))
      else arithmetic Double.add left right
  | .subtract => arithmetic Double.subtract left right
  | .multiply => arithmetic Double.multiply left right
  | .divide => arithmetic Double.divide left right
  | .remainder => arithmetic Double.remainder left right
  | .equal => .ok (.bool (alike left right))
  | .notEqual => .ok (.bool (!alike left right))
  | .less => compare (fun a b => decide (a < b)) Double.less left right
  | .lessEqual => compare (fun a b => decide (a ≤ b)) Double.lessEqual left right
  | .greater => compare (fun a b => decide (b < a)) (fun x y => y.less x) left right
  | .greaterEqual => compare (fun a b => decide (b ≤ a)) (fun x y => y.lessEqual x) left right

/-- The value of an operator on one value. -/
def applyUnary (operator : UnaryOperator) (v : Json) : Except ExpressionProblem Json :=
  match operator with
  | .not => .ok (.bool (!isTruthy v))
  | .negate => do ofResult (← toNumber v).negate

end Expression

end BundleConfig
