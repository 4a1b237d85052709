import BundleConfig.Table

/-!
# Reading a command line

A command line is a list of words.  A word that starts with two hyphens is a
*flag* or an *option*.  An option has a value, which follows after an equals
sign or as the next word.  Every other word is an *operand*, and so are all
words after a lone `--`.

A flag or option stands on the command line once.  A flag that takes another one
back may follow it, and then only the later one counts.  The next word is no
value if it starts with a hyphen, unless it is a hyphen.
-/

namespace BundleConfig

namespace CommandLine

/-- What a word with two hyphens may be. -/
structure Rule where
  /-- The name after the hyphens. -/
  name : String
  /-- Which values it may have.  A flag has none. -/
  accepts : Option (String → Bool) := none
  /-- The flags it takes back. -/
  takesBack : List String := []

/-- Why no command is run. -/
inductive Stop
  /-- The words are no command. -/
  | misuse
  /-- The version was asked for. -/
  | version
  /-- Help was asked for. -/
  | help
deriving DecidableEq

/-- What stands on a command line. -/
structure Words where
  /-- The flags. -/
  flags : List String := []
  /-- The options with their values. -/
  values : Table String := []
  /-- The operands. -/
  operands : List String := []

namespace Words

/-- The words with a flag set. -/
def setFlag (w : Words) (rule : Rule) : Except Stop Words :=
  if w.flags.contains rule.name then .error .misuse
  else .ok { w with flags := w.flags.filter (!rule.takesBack.contains ·) ++ [rule.name] }

/-- The words with an option set. -/
def setValue (w : Words) (rule : Rule) (value : String) : Except Stop Words :=
  if w.values.contains rule.name || !rule.accepts.any (· value) then .error .misuse
  else .ok { w with values := w.values.insert rule.name value }

end Words

/-- What the reader of a command line goes by. -/
structure Grammar where
  /-- The flags and options. -/
  rules : List Rule
  /-- Whether the version may be asked for. -/
  hasVersion : Bool := false
  /-- Whether the first operand ends the reading. -/
  stopsAtOperand : Bool := false

namespace Grammar

/-- The name and the value in a word with two hyphens. -/
def cutOption (body : List Char) : String × Option String :=
  let name := String.ofList (body.takeWhile (· != '='))
  match body.dropWhile (· != '=') with
  | _ :: value => (name, some (String.ofList value))
  | [] => (name, none)

/-- What a word with one hyphen asks for. -/
def readShort (g : Grammar) (letter : Char) : Stop :=
  if letter = 'h' then .help
  else if letter = 'V' && g.hasVersion then .version
  else .misuse

/-- The words after one with two hyphens, and the option that waits for its
value. -/
def readLong (g : Grammar) (w : Words) (body : List Char) :
    Except Stop (Words × Option Rule) :=
  let (name, value) := cutOption body
  match g.rules.find? (·.name == name), value with
  | some rule, none =>
      if rule.accepts.isSome then .ok (w, some rule)
      else (w.setFlag rule).map fun w => (w, none)
  | some rule, some value =>
      if rule.accepts.isSome then (w.setValue rule value).map fun w => (w, none)
      else .error .misuse
  | none, none =>
      if name = "help" then .error .help
      else if name = "version" && g.hasVersion then .error .version
      else .error .misuse
  | none, some _ => .error .misuse

/-- Reads words.  `waiting` is an option that waits for its value.  The second
part of the outcome are the words that are left. -/
def read (g : Grammar) (w : Words) (waiting : Option Rule) :
    List String → Except Stop (Words × List String)
  | [] => if waiting.isSome then .error .misuse else .ok (w, [])
  | word :: rest =>
      match waiting, word.toList with
      | none, ['-', '-'] => .ok ({ w with operands := w.operands ++ rest }, [])
      | none, '-' :: '-' :: body =>
          match g.readLong w body with
          | .ok (w, waiting) => read g w waiting rest
          | .error stop => .error stop
      | none, '-' :: letter :: _ => .error (g.readShort letter)
      | some _, '-' :: _ :: _ => .error .misuse
      | some rule, _ =>
          match w.setValue rule word with
          | .ok w => read g w none rest
          | .error stop => .error stop
      | none, _ =>
          if g.stopsAtOperand then .ok (w, word :: rest)
          else read g { w with operands := w.operands ++ [word] } none rest

/-- The words of a command line that has at most `count` operands. -/
def readAll (g : Grammar) (count : Nat) (words : List String) : Except Stop Words := do
  let (w, _) ← g.read {} none words
  if w.operands.length > count then throw .misuse
  pure w

end Grammar

end CommandLine

end BundleConfig
