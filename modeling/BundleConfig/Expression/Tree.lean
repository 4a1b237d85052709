import BundleConfig.Json.Basic

/-!
# Expression trees

What an expression says, without its spelling.  Parentheses leave no trace, and
both spellings of equality are one operator.
-/

namespace BundleConfig

/-- An operator on one value. -/
inductive UnaryOperator
  | not
  | negate
deriving DecidableEq

/-- An operator on two values, both of which are computed. -/
inductive BinaryOperator
  | add
  | subtract
  | multiply
  | divide
  | remainder
  | equal
  | notEqual
  | less
  | lessEqual
  | greater
  | greaterEqual
deriving DecidableEq

/-- An operator that computes its second value only when the first does not
decide. -/
inductive LogicalOperator
  | and
  | or
deriving DecidableEq

/-- The tree of an expression. -/
inductive Expr
  | literal (value : Json)
  | identifier (name : String)
  | array (items : List Expr)
  | member (object : Expr) (name : String)
  | index (object position : Expr)
  | call (callee : Expr) (arguments : List Expr)
  | unary (operator : UnaryOperator) (operand : Expr)
  | binary (operator : BinaryOperator) (left right : Expr)
  | logical (operator : LogicalOperator) (left right : Expr)
  | conditional (condition consequent alternative : Expr)

instance : Inhabited Expr := ⟨.literal .null⟩

/-- An operator between two sub-expressions. -/
inductive Operator
  | binary (operator : BinaryOperator)
  | logical (operator : LogicalOperator)
deriving DecidableEq

/-- The tree of an operator and its two sides. -/
def Operator.node : Operator → (left right : Expr) → Expr
  | binary operator, left, right => .binary operator left right
  | logical operator, left, right => .logical operator left right

end BundleConfig
