import BundleConfig.Text.Basic

/-!
# Reports

What the program writes besides configurations: the report of a failure, and
trees drawn with lines.

A report of a failure starts with what failed.  Its causes follow, each one
indented, and numbered if there are several.
-/

namespace BundleConfig

namespace CommandLine

/-! ## Failures -/

/-- A text with something before its first line and before each other line. -/
def indent (first other : String) (text : String) : String :=
  let lines := (Text.split '\n' text.toList).map String.ofList
  first ++ ("\n" ++ other).intercalate lines

/-- The causes of a failure, indented. -/
def causeTexts : List String → List String
  | [cause] => [indent "    " "    " cause]
  | causes => causes.zipIdx.map fun (cause, number) =>
      indent ("    " ++ toString number ++ ": ") "       " cause

/-- The report of a failure. -/
def failureReport (failure : String) (causes : List String) : String :=
  let tail := if causes.isEmpty then []
    else "" :: "Caused by:" :: causeTexts causes
  "\n".intercalate (("Error: " ++ failure) :: tail) ++ "\n"

/-! ## Drawn trees -/

/-- A tree of labels. -/
inductive Outline
  | node (label : String) (children : List Outline)

namespace Outline

/-- A label without children. -/
def leaf (label : String) : Outline := node label []

mutual

/-- The lines of a tree.  `own` stands before its label, and `below` before each
line of its children. -/
def lines (own below : String) : Outline → List String
  | node label children => (own ++ label) :: childLines below children
termination_by structural o => o

/-- The lines of children. -/
def childLines (below : String) : List Outline → List String
  | [] => []
  | child :: rest =>
      if rest.isEmpty then lines (below ++ "└─ ") (below ++ "   ") child
      else lines (below ++ "├─ ") (below ++ "│  ") child ++ childLines below rest
termination_by structural children => children

end

/-- The drawing of a tree. -/
def draw (o : Outline) : String := String.join ((o.lines "" "").map (· ++ "\n"))

end Outline

end CommandLine

end BundleConfig
