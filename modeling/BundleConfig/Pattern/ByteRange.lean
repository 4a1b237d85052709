import BundleConfig.Unicode.CharSet

/-!
# Ranges of encoded characters

A character is encoded in one to four bytes.  The encodings of a range of
characters are split into *byte sequences*: lists of ranges of bytes such that
every choice of bytes in order encodes a character of the range, and every
character has one.  The sequences ascend.

A range is split where the number of bytes changes and at the codes that are no
characters.  After this it is split until only the last bytes vary freely.
-/

namespace BundleConfig

open Unicode (CodeRange CharSet)

namespace Pattern

/-- The bytes between two, ends included. -/
structure ByteRange where
  /-- The first byte. -/
  first : Nat
  /-- The last byte. -/
  last : Nat
deriving DecidableEq

/-- How many bytes encode a character. -/
def encodedLength (code : Nat) : Nat :=
  if code < 0x80 then 1 else if code < 0x800 then 2 else if code < 0x10000 then 3 else 4

/-- The byte of an encoding that `after` bytes follow, none of them the first. -/
def innerByte (code after : Nat) : Nat := 0x80 + code / Nat.pow 64 after % 64

/-- The first byte of an encoding. -/
def leadByte (code : Nat) : Nat :=
  match encodedLength code with
  | 1 => code
  | 2 => 0xC0 + code / 64
  | 3 => 0xE0 + code / 4096
  | _ => 0xF0 + code / 262144

/-- The byte ranges between the encodings of two characters. -/
def bytesBetween (first last : Nat) : List ByteRange :=
  ⟨leadByte first, leadByte last⟩ ::
    (List.range (encodedLength first - 1)).reverse.map fun after =>
      ⟨innerByte first after, innerByte last after⟩

/-- A range in two parts, the second starting at a code. -/
def splitAt (r : CodeRange) (code : Nat) : List CodeRange :=
  [⟨r.first, code - 1⟩, ⟨code, r.last⟩]

/-- The codes where the length of encodings grows. -/
def lengthSteps : List Nat := [0x80, 0x800, 0x10000]

/-- The parts of a range whose last `after` bytes do not vary freely, or nothing
if they do. -/
def splitFor (r : CodeRange) (after : Nat) : Option (List CodeRange) :=
  let size := Nat.pow 64 after
  if r.first / size = r.last / size then none
  else if r.first % size ≠ 0 then some (splitAt r ((r.first / size + 1) * size))
  else if r.last % size ≠ size - 1 then some (splitAt r (r.last / size * size))
  else none

/-- The two parts of a range that one byte sequence does not encode. -/
def split? (r : CodeRange) : Option (List CodeRange) :=
  if r.first < 0xE000 ∧ r.last > 0xD7FF then some [⟨r.first, 0xD7FF⟩, ⟨0xE000, r.last⟩]
  else
    match lengthSteps.find? fun step => r.first < step && step ≤ r.last with
    | some step => some (splitAt r step)
    | none => if r.last < 0x80 then none else [1, 2, 3].findSome? (splitFor r)

/-- The byte sequences of a range, which is split `steps` times at most. -/
def byteSequences : (steps : Nat) → CodeRange → List (List ByteRange)
  | 0, _ => []
  | steps + 1, r =>
      if r.last < r.first then []
      else
        match split? r with
        | some parts => parts.flatMap (byteSequences steps)
        | none => [bytesBetween r.first r.last]

/-- How often a range has to be split at most. -/
def maxSplits : Nat := 64

/-- The byte sequences of a set. -/
def setSequences (s : CharSet) : List (List ByteRange) := s.ranges.flatMap (byteSequences maxSplits)

end Pattern

end BundleConfig
