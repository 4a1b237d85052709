import BundleConfig.Decimal.Double
import BundleConfig.Table

/-!
# Configuration trees

A configuration is a tree of mappings, arrays and scalars.  The entries of a
mapping are ordered, and the order is part of the tree: a tree is printed,
walked and merged in the order in which its keys were written.

A number is an integer or a double, and the two are kept apart.  `1` and `1.0`
are different numbers.

*Equality.*  `Json.equal` compares two trees by what they mean.  It ignores the
order of the entries of a mapping and identifies the two zeros.  An integer
equals no double.

Every recursive function on trees comes as three: on a tree, on the items of
an array, on the entries of a mapping.  All three are structural.
-/

namespace BundleConfig

/-- A number of a tree. -/
inductive Number
  /-- A number written without point and exponent that fits 64 bits. -/
  | integer (value : Int)
  /-- Every other number. -/
  | double (value : Double)
deriving DecidableEq

/-- A configuration tree. -/
inductive Json
  /-- No value. -/
  | null
  /-- A truth value. -/
  | bool (flag : Bool)
  /-- A number. -/
  | number (value : Number)
  /-- A text. -/
  | string (text : String)
  /-- An array of trees. -/
  | array (items : List Json)
  /-- A mapping, with its entries in order. -/
  | object (entries : List (String × Json))

namespace Number

/-- The double nearest to the number. -/
def toDouble : Number → Double
  | .integer i => .ofInt i
  | .double x => x

/-- The index the number denotes, for an integer that is not negative. -/
def index? : Number → Option Nat
  | .integer i => i.toNat?
  | .double _ => none

/-- The number of an arithmetic result: an integer when the result is integral
and below `2 ^ 63` in magnitude, else a double. -/
def ofDouble (x : Double) : Number :=
  match x.integer? with
  | some i => .integer i
  | none => .double x

/-- Equality of numbers of one kind. -/
def equal : Number → Number → Bool
  | .integer i, .integer j => i == j
  | .double x, .double y => x.equals y
  | _, _ => false

end Number

namespace Json

instance : Inhabited Json := ⟨null⟩

/-! ## Reading -/

/-- The entries of a mapping. -/
def entries? : Json → Option (Table Json)
  | object entries => some entries
  | _ => none

/-- The items of an array. -/
def items? : Json → Option (List Json)
  | array items => some items
  | _ => none

/-- The text of a string. -/
def text? : Json → Option String
  | string text => some text
  | _ => none

/-- The flag of a truth value. -/
def flag? : Json → Option Bool
  | bool flag => some flag
  | _ => none

/-- The value of a key of a mapping. -/
def get? (v : Json) (key : String) : Option Json := v.entries?.bind (Table.get? · key)

/-- The item of an array at a position. -/
def item? (v : Json) (index : Nat) : Option Json := v.items?.bind (·[index]?)

/-- Whether the tree is a mapping. -/
def isObject (v : Json) : Bool := v.entries?.isSome

/-- Whether the tree is an array. -/
def isArray (v : Json) : Bool := v.items?.isSome

/-- Whether the tree is a string. -/
def isString (v : Json) : Bool := v.text?.isSome

/-- Whether the tree is `null`. -/
def isNull : Json → Bool
  | null => true
  | _ => false

/-- A natural number as a tree. -/
def ofNat (n : Nat) : Json := number (.integer n)

/-- An array of strings. -/
def ofTexts (texts : List String) : Json := array (texts.map string)

/-- The empty mapping. -/
def emptyObject : Json := object []

/-- The strings of an array of strings. -/
def texts? (v : Json) : Option (List String) := v.items?.bind (·.mapM text?)

/-! ## Equality -/

mutual

/-- Whether two trees mean the same. -/
def equal : Json → Json → Bool
  | null, null => true
  | bool a, bool b => a == b
  | number a, number b => a.equal b
  | string a, string b => a == b
  | array a, array b => equalItems a b
  | object a, object b => a.length == b.length && equalEntries a b
  | _, _ => false
termination_by structural v => v

/-- Whether two arrays mean the same, position by position. -/
def equalItems : List Json → List Json → Bool
  | [], [] => true
  | v :: rest, w :: others => equal v w && equalItems rest others
  | _, _ => false
termination_by structural items => items

/-- Whether every entry of the first mapping has its like in the second. -/
def equalEntries : List (String × Json) → List (String × Json) → Bool
  | [], _ => true
  | (key, v) :: rest, others =>
      (match Table.get? others key with
        | some w => equal v w
        | none => false) && equalEntries rest others
termination_by structural entries => entries

end

instance : BEq Json := ⟨equal⟩

/-! ## Keys -/

mutual

/-- Every key of the tree in document order: a key, then the keys inside its
value. -/
def allKeys : Json → List String
  | array items => allKeysOfItems items
  | object entries => allKeysOfEntries entries
  | _ => []
termination_by structural v => v

/-- The keys inside the items of an array. -/
def allKeysOfItems : List Json → List String
  | [] => []
  | v :: rest => allKeys v ++ allKeysOfItems rest
termination_by structural items => items

/-- The keys of entries and inside their values. -/
def allKeysOfEntries : List (String × Json) → List String
  | [] => []
  | (key, v) :: rest => key :: allKeys v ++ allKeysOfEntries rest
termination_by structural entries => entries

end

end Json

end BundleConfig
