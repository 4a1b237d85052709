import BundleConfig.Pattern.Fault
import BundleConfig.Text.Basic

/-!
# Problems with patterns

The wording of a refusal shows the text and marks the place under the line where
it is.  A text of several lines has numbered lines between two rules.  A place
that reaches over several lines is not marked but named after them.

Lines and columns count from one.  The end of a text after a line end counts as a
line of its own, which is not shown.
-/

namespace BundleConfig

namespace Pattern

/-! ## Lines and columns -/

/-- A line and a column. -/
structure Coordinates where
  /-- The line. -/
  line : Nat
  /-- The column. -/
  column : Nat
deriving DecidableEq

/-- Where a text goes on with what is left of it. -/
def Coordinates.of (text rest : List Char) : Coordinates :=
  let before := text.take (text.length - rest.length)
  let line := before.reverse.takeWhile (· != '\n')
  ⟨before.count '\n' + 1, line.length + 1⟩

/-- Two places in lines and columns, the first and the one behind the last. -/
structure Stretch where
  /-- The first place. -/
  first : Coordinates
  /-- The place behind the last one. -/
  last : Coordinates

/-- Whether a stretch is on one line. -/
def Stretch.isOnOneLine (s : Stretch) : Bool := s.first.line == s.last.line

/-- A place of a text in lines and columns. -/
def Place.stretch (text : List Char) (p : Place) : Stretch :=
  ⟨.of text p.start, .of text p.stop⟩

/-! ## Marked lines -/

/-- The lines of a text as they are shown, without their ends. -/
def shownLines (text : List Char) : List (List Char) :=
  let lines := Text.split '\n' text
  let ended := lines.dropLast.map fun line => (Text.dropEnd? ['\r'] line).getD line
  match lines.getLast? with
  | none | some [] => ended
  | some last => ended ++ [last]

/-- The marks of stretches under a line, of which `written` characters are
written.  A stretch without characters has one mark. -/
def marks : (written : Nat) → List Stretch → List Char
  | _, [] => []
  | written, s :: others =>
      let blanks := s.first.column - 1 - written
      let length := max 1 (s.last.column - s.first.column)
      List.replicate blanks ' ' ++ List.replicate length '^' ++
        marks (written + blanks + length) others

/-- What stands before a line: its number in so many characters, or an indentation
if lines have no numbers. -/
def lineStart (width number : Nat) : List Char :=
  if width = 0 then List.replicate 4 ' '
  else
    let digits := Nat.toDigits 10 number
    List.replicate (width - digits.length) ' ' ++ digits ++ [':', ' ']

/-- A line with its number and the marks of the stretches on it. -/
def markedLine (width : Nat) (stretches : List Stretch) (line : List Char) (number : Nat) :
    List Char :=
  let start := lineStart width number
  let own := stretches.filter fun s => s.isOnOneLine && s.first.line == number
  let shown := start ++ line ++ ['\n']
  if own.isEmpty then shown
  else shown ++ List.replicate start.length ' ' ++ marks 0 own ++ ['\n']

/-- A text with the marks of stretches. -/
def markedText (text : List Char) (stretches : List Stretch) : List Char :=
  let lines := shownLines text
  let count := if text.getLast? = some '\n' then lines.length + 1 else lines.length
  let width := if count ≤ 1 then 0 else (Nat.toDigits 10 count).length
  (lines.zipIdx 1).flatMap fun (line, number) => markedLine width stretches line number

/-- The wording of a stretch over several lines. -/
def Stretch.describe (s : Stretch) : String :=
  "on line " ++ toString s.first.line ++ " (column " ++ toString s.first.column ++
    ") through line " ++ toString s.last.line ++ " (column " ++ toString (s.last.column - 1) ++ ")"

/-! ## Problems -/

/-- Why a text is no pattern. -/
inductive Problem
  /-- The text is refused. -/
  | refused (text : String) (refusal : Refusal)
  /-- The pattern needs more memory than it may. -/
  | tooLarge (limit : Nat)

/-- The wording of a refusal of a text. -/
def Refusal.message (text : String) (r : Refusal) : String :=
  let letters := text.toList
  let stretches := (r.earlier.toList ++ [r.place]).map (Place.stretch letters)
  let marked := String.ofList (markedText letters stretches)
  let fault := "error: " ++ r.fault.message
  if letters.contains '\n' then
    let rule := String.ofList (List.replicate 79 '~') ++ "\n"
    let far := (stretches.filter fun s => !s.isOnOneLine).map fun s => s.describe ++ "\n"
    "regex parse error:\n" ++ rule ++ marked ++ rule ++ String.join far ++ fault
  else "regex parse error:\n" ++ marked ++ fault

/-- The wording of a problem. -/
def Problem.message : Problem → String
  | refused text refusal => refusal.message text
  | tooLarge limit => "Compiled regex exceeds size limit of " ++ toString limit ++ " bytes."

end Pattern

end BundleConfig
