/-!
# Raw texts

The operating system knows names and paths as bytes.  Most are the UTF-8 bytes of
a text, but any other bytes may stand there too.  A *raw text* is such a list of
bytes.

The *rendering* of a raw text is a text.  Bytes that make up a letter become that
letter.  The others fall into parts, each as long as it could still have become a
letter, and every part becomes the replacement character.  The rendering of the
bytes of a text is that text, and different raw texts may have one rendering.

Raw texts are in the order of their bytes.

`Reading` is the reading of bytes one by one.  It stands between two letters, or
within one of which it knows the first bytes.
-/

namespace BundleConfig

/-- A text as the operating system knows it. -/
structure RawText where
  /-- The bytes. -/
  bytes : List UInt8
deriving DecidableEq, Inhabited

namespace RawText

/-- The bytes of letters. -/
def encode (cs : List Char) : List UInt8 := cs.flatMap String.utf8EncodeChar

/-- The raw text of a text. -/
def ofText (text : String) : RawText := ⟨encode text.toList⟩

instance : Coe String RawText := ⟨ofText⟩

/-- The byte of a slash. -/
def slash : UInt8 := 0x2F

/-- The byte of a dot. -/
def dot : UInt8 := 0x2E

/-! ## Order -/

instance : LT RawText := ⟨fun a b => a.bytes < b.bytes⟩

instance : LE RawText := ⟨fun a b => a.bytes ≤ b.bytes⟩

instance (a b : RawText) : Decidable (a ≤ b) := inferInstanceAs (Decidable (a.bytes ≤ b.bytes))

/-! ## Rendering -/

/-- The letter that stands for bytes that are no letter. -/
def replacement : Char := '\uFFFD'

/-- Where the reading of bytes stands. -/
inductive Reading
  /-- Between two letters. -/
  | between
  /-- Within a letter: its number so far, how many bytes it has after the first, and
  how many of them come after the next. -/
  | within (number tail more : Nat)

namespace Reading

/-- The least number of a letter that has so many bytes after the first. -/
def least : (tail : Nat) → Nat
  | 0 | 1 => 0x80
  | 2 => 0x800
  | _ => 0x10000

/-- Whether there is a letter whose number starts so, with so many bytes to come. -/
def isOpen (number tail more : Nat) : Bool :=
  let low := max (number * Nat.pow 64 more) (least tail)
  let high := number * Nat.pow 64 more + (Nat.pow 64 more - 1)
  decide (low ≤ high) && decide (low < 0x110000) &&
    (decide (low < 0xD800) || decide (0xDFFF < high))

/-- The reading after the first byte of a letter, if there is such a letter. -/
def lead (number tail : Nat) : List Char × Reading :=
  if isOpen number tail tail then ([], within number tail (tail - 1)) else ([replacement], between)

/-- The letters that the first byte of a part settles, and the reading after it. -/
def start (byte : Nat) : List Char × Reading :=
  if byte < 0x80 then ([Char.ofNat byte], between)
  else if byte < 0xC0 then ([replacement], between)
  else if byte < 0xE0 then lead (byte - 0xC0) 1
  else if byte < 0xF0 then lead (byte - 0xE0) 2
  else if byte < 0xF8 then lead (byte - 0xF0) 3
  else ([replacement], between)

/-- The letters that a further byte of a letter settles, and the reading after it. -/
def proceed (number tail : Nat) : (more : Nat) → List Char × Reading
  | 0 => ([Char.ofNat number], between)
  | more + 1 => ([], within number tail more)

/-- The letters that a byte settles, and the reading after it.  A byte that does not
go on with a letter ends the part before it and starts the next one. -/
def step (byte : Nat) : Reading → List Char × Reading
  | between => start byte
  | within number tail more =>
      let number := number * 64 + (byte - 0x80)
      if 0x80 ≤ byte ∧ byte < 0xC0 ∧ isOpen number tail more then proceed number tail more
      else (replacement :: (start byte).1, (start byte).2)

/-- The letters of the bytes that follow.  A letter that is cut off is none. -/
def letters : Reading → List UInt8 → List Char
  | between, [] => []
  | within .., [] => [replacement]
  | reading, byte :: rest =>
      let (settled, next) := reading.step byte.toNat
      settled ++ letters next rest

end Reading

/-- The letters that bytes are rendered with. -/
def letters (bytes : List UInt8) : List Char := Reading.between.letters bytes

/-- The rendering. -/
def text (raw : RawText) : String := String.ofList (letters raw.bytes)

/-- Whether the bytes are those of a text, which is the rendering then. -/
def isText (raw : RawText) : Bool := encode (letters raw.bytes) == raw.bytes

/-- The text whose bytes these are, if there is one. -/
def text? (raw : RawText) : Option String := if raw.isText then some raw.text else none

end RawText

end BundleConfig
