import BundleConfig.Expression.Lexer
import BundleConfig.Expression.Tree

/-!
# Building expression trees

From loose to tight, an expression is made of `?:`, `||`, `&&`, the equalities,
the comparisons, sums, products, `!` and `-` before an operand, and accesses and
calls behind one.  Operators of one level group to the left, `?:` to the right.

Every sub-expression in parentheses, brackets or branches and every operator
before an operand opens a level.  At most `maxNesting` levels are open at once.
The `levels` argument says how many more may be opened.

A step takes the tokens left and gives those it did not use.  The steps call each
other, and their first argument counts down with every call.  Between two tokens
there are at most seven calls, so `Expr.fuel` suffices for a list of tokens.
-/

namespace BundleConfig

namespace Expr

/-- How many levels may be open at once. -/
def maxNesting : Nat := 128

/-- A tree or a list of trees, with the tokens left. -/
abbrev Parsed (α : Type) := α × List Token

/-- The operator a mark stands for between two operands, and its level.  Higher
levels bind tighter. -/
def operator? : Mark → Option (Operator × Nat)
  | .or => some (.logical .or, 1)
  | .and => some (.logical .and, 2)
  | .equal => some (.binary .equal, 3)
  | .strictEqual => some (.binary .equal, 3)
  | .notEqual => some (.binary .notEqual, 3)
  | .strictNotEqual => some (.binary .notEqual, 3)
  | .less => some (.binary .less, 4)
  | .lessEqual => some (.binary .lessEqual, 4)
  | .greater => some (.binary .greater, 4)
  | .greaterEqual => some (.binary .greaterEqual, 4)
  | .plus => some (.binary .add, 5)
  | .minus => some (.binary .subtract, 5)
  | .times => some (.binary .multiply, 6)
  | .divide => some (.binary .divide, 6)
  | .percent => some (.binary .remainder, 6)
  | _ => none

/-- The tree of a name.  Four names are literals. -/
def ofName (name : String) : Expr :=
  if name = "true" then .literal (.bool true)
  else if name = "false" then .literal (.bool false)
  else if name = "null" ∨ name = "undefined" then .literal .null
  else .identifier name

/-- The literal of a number.  One that is too large for a double is `null`. -/
def ofNumber (value : Double) : Expr :=
  .literal (if value.isFinite then .number (.ofDouble value) else .null)

/-- Uses a mark that has to come next. -/
def expect (m : Mark) (ts : List Token) : Except ExpressionProblem (List Token) :=
  if ts.head? = some (.mark m) then .ok ts.tail else .error (.expectedMark m ts.head?)

/-- Opens a level. -/
def nested {α : Type} (levels : Nat) (inside : (levels : Nat) → Except ExpressionProblem α) :
    Except ExpressionProblem α :=
  match levels with
  | 0 => .error (.tooDeep maxNesting)
  | levels + 1 => inside levels

mutual

/-- A whole expression, on a level of its own. -/
def whole : (fuel levels : Nat) → List Token → Except ExpressionProblem (Parsed Expr)
  | 0, _, ts => .error (.unexpected ts.head?)
  | fuel + 1, levels, ts =>
      nested levels fun levels => do
        let (condition, ts) ← operation fuel levels 0 ts
        match ts with
        | .mark .question :: ts => do
            let (consequent, ts) ← whole fuel levels ts
            let ts ← expect .colon ts
            let (alternative, ts) ← whole fuel levels ts
            pure (.conditional condition consequent alternative, ts)
        | ts => pure (condition, ts)

/-- Operands with operators of at least the level `least` between them. -/
def operation : (fuel levels least : Nat) → List Token → Except ExpressionProblem (Parsed Expr)
  | 0, _, _, ts => .error (.unexpected ts.head?)
  | fuel + 1, levels, least, ts => do
      let (left, ts) ← operand fuel levels ts
      operationRest fuel levels least left ts

/-- The operators and operands after `left`. -/
def operationRest : (fuel levels least : Nat) → (left : Expr) → List Token →
    Except ExpressionProblem (Parsed Expr)
  | 0, _, _, _, ts => .error (.unexpected ts.head?)
  | fuel + 1, levels, least, left, ts =>
      match ts with
      | .mark m :: rest =>
          match operator? m with
          | some (operator, level) =>
              if level < least then .ok (left, ts)
              else do
                let (right, rest) ← operation fuel levels (level + 1) rest
                operationRest fuel levels least (operator.node left right) rest
          | none => .ok (left, ts)
      | ts => .ok (left, ts)

/-- An operand with the operators before it. -/
def operand : (fuel levels : Nat) → List Token → Except ExpressionProblem (Parsed Expr)
  | 0, _, ts => .error (.unexpected ts.head?)
  | fuel + 1, levels, ts =>
      match ts with
      | .mark .not :: rest =>
          nested levels fun levels => do
            let (inner, rest) ← operand fuel levels rest
            pure (.unary .not inner, rest)
      | .mark .minus :: rest =>
          nested levels fun levels => do
            let (inner, rest) ← operand fuel levels rest
            pure (.unary .negate inner, rest)
      | ts => do
          let (object, ts) ← primary fuel levels ts
          accesses fuel levels object ts

/-- The accesses and calls behind `object`. -/
def accesses : (fuel levels : Nat) → (object : Expr) → List Token →
    Except ExpressionProblem (Parsed Expr)
  | 0, _, _, ts => .error (.unexpected ts.head?)
  | fuel + 1, levels, object, ts =>
      match ts with
      | .mark .dot :: rest =>
          match rest with
          | .identifier name :: rest => accesses fuel levels (.member object name) rest
          | rest => .error (.expectedName rest.head?)
      | .mark .openBracket :: rest => do
          let (position, rest) ← whole fuel levels rest
          let rest ← expect .closeBracket rest
          accesses fuel levels (.index object position) rest
      | .mark .openParen :: rest => do
          let (arguments, rest) ← list fuel levels .closeParen rest
          accesses fuel levels (.call object arguments) rest
      | ts => .ok (object, ts)

/-- Expressions with commas between them, up to the closing mark. -/
def list : (fuel levels : Nat) → (closing : Mark) → List Token →
    Except ExpressionProblem (Parsed (List Expr))
  | 0, _, _, ts => .error (.unexpected ts.head?)
  | fuel + 1, levels, closing, ts =>
      if ts.head? = some (.mark closing) then .ok ([], ts.tail)
      else listItems fuel levels closing ts

/-- At least one expression, up to the closing mark. -/
def listItems : (fuel levels : Nat) → (closing : Mark) → List Token →
    Except ExpressionProblem (Parsed (List Expr))
  | 0, _, _, ts => .error (.unexpected ts.head?)
  | fuel + 1, levels, closing, ts => do
      let (first, ts) ← whole fuel levels ts
      if ts.head? = some (.mark closing) then pure ([first], ts.tail)
      else do
        let ts ← expect .comma ts
        let (others, ts) ← listItems fuel levels closing ts
        pure (first :: others, ts)

/-- A literal, a name, an expression in parentheses or an array. -/
def primary : (fuel levels : Nat) → List Token → Except ExpressionProblem (Parsed Expr)
  | 0, _, ts => .error (.unexpected ts.head?)
  | fuel + 1, levels, ts =>
      match ts with
      | .number value :: rest => .ok (ofNumber value, rest)
      | .string text :: rest => .ok (.literal (.string text), rest)
      | .identifier name :: rest => .ok (ofName name, rest)
      | .mark .openParen :: rest => do
          let (inner, rest) ← whole fuel levels rest
          let rest ← expect .closeParen rest
          pure (inner, rest)
      | .mark .openBracket :: rest => do
          let (items, rest) ← list fuel levels .closeBracket rest
          pure (.array items, rest)
      | ts => .error (.unexpected ts.head?)

end

/-- How many calls the steps may nest on a list of tokens. -/
def fuel (ts : List Token) : Nat := 8 * ts.length + 8

/-- The tree of a list of tokens, all of which it uses. -/
def ofTokens (ts : List Token) : Except ExpressionProblem Expr := do
  let (e, rest) ← whole (fuel ts) maxNesting ts
  match rest with
  | [] => pure e
  | t :: _ => throw (.trailing t)

/-- The tree of an expression. -/
def ofText (source : String) : Except ExpressionProblem Expr := do
  ofTokens (← Token.ofText source)

end Expr

end BundleConfig
