import BundleConfig.Text.Basic
import BundleConfig.Text.Raw

/-!
# Paths

A path is a raw text whose pieces are separated by slashes.  Its *components*
are the pieces that say something: the root of an absolute path, a leading `.`,
the `..` pieces and the names.  Empty pieces and other `.` pieces are no
components.

Two spellings of one component list are the *same* path, though their bytes
differ.  Containment compares components too, so `/a` contains `/a/b` and not
`/ab`.

The parent of a path is a spelling again.  It is the path's spelling up to its
last component, without what separates them.

Where a path becomes a text, in messages and in trees, it is rendered
(`Path.text`).
-/

namespace BundleConfig

open RawText (slash dot)

/-- A path, by its spelling. -/
structure Path where
  /-- The spelling. -/
  spelling : RawText
deriving DecidableEq, Inhabited

/-- A part of a path that says something. -/
inductive Component
  /-- The root, at the start of an absolute path. -/
  | root
  /-- The directory itself, at the start of a relative path. -/
  | here
  /-- The directory above. -/
  | up
  /-- The entry of a name. -/
  | normal (name : RawText)
deriving DecidableEq

namespace Component

/-- Whether a piece is a component. -/
def isPiece (piece : List UInt8) : Bool := piece != [] && piece != [dot]

/-- The component of a piece that is one. -/
def ofPiece (piece : List UInt8) : Component :=
  if piece = [dot, dot] then .up else .normal ⟨piece⟩

/-- The piece of a component in a path. -/
def piece : Component → List UInt8
  | root => []
  | here => [dot]
  | up => [dot, dot]
  | normal name => name.bytes

end Component

namespace Path

/-- The path of bytes. -/
def ofBytes (bytes : List UInt8) : Path := ⟨⟨bytes⟩⟩

/-- The bytes of a path. -/
def bytes (p : Path) : List UInt8 := p.spelling.bytes

/-- The rendering of a path. -/
def text (p : Path) : String := p.spelling.text

/-- Whether the path starts at the root. -/
def isAbsolute (p : Path) : Bool := p.bytes.head? == some slash

/-! ## Components -/

/-- The first component, if it is the root or a leading `.`, and the pieces
after it. -/
def headAndBody (p : Path) : Option Component × List (List UInt8) :=
  match Text.split slash p.bytes with
  | [[]] => (none, [])
  | [] :: body => (some .root, body)
  | [0x2E] :: body => (some .here, body)
  | body => (none, body)

/-- The components. -/
def components (p : Path) : List Component :=
  let (head, body) := p.headAndBody
  head.toList ++ (body.filter Component.isPiece).map Component.ofPiece

/-- Whether two paths have the same components. -/
def same (p q : Path) : Bool := p.components == q.components

/-- Whether the components of `p` start with those of `top`. -/
def startsWith (p top : Path) : Bool := top.components.isPrefixOf p.components

/-- The path of a list of components. -/
def ofComponents : List Component → Path
  | [.root] => ofBytes [slash]
  | components => ofBytes (Text.join slash (components.map Component.piece))

/-- What is left of the components of `p` after those of `top`. -/
def below? (p top : Path) : Option Path :=
  if p.startsWith top then
    some (ofComponents (p.components.drop top.components.length))
  else none

/-! ## Joining -/

/-- The path `q` as seen from `p`.  An absolute `q` is itself. -/
def join (p q : Path) : Path :=
  if q.isAbsolute then q
  else if p.bytes.isEmpty ∨ p.bytes.getLast? = some slash then ofBytes (p.bytes ++ q.bytes)
  else ofBytes (p.bytes ++ slash :: q.bytes)

/-- The entry of a name in the directory `p`. -/
def entry (p : Path) (name : RawText) : Path := p.join ⟨name⟩

/-- The path with something appended to its last name. -/
def append (p : Path) (ending : RawText) : Path := ofBytes (p.bytes ++ ending.bytes)

/-- The rendering with a slash at its end. -/
def withSlash (p : Path) : String :=
  if p.text.toList.getLast? = some '/' then p.text else p.text ++ "/"

/-! ## Last component -/

/-- The pieces without those at the end that are no components. -/
def dropIdle (pieces : List (List UInt8)) : List (List UInt8) :=
  (pieces.reverse.dropWhile (!Component.isPiece ·)).reverse

/-- The spelling of a first component and the pieces after it. -/
def ofHeadAndBody (head : Option Component) (body : List (List UInt8)) : Path :=
  match head, body with
  | some .root, body => ofBytes (slash :: Text.join slash body)
  | some .here, [] => ofBytes [dot]
  | some .here, body => ofBytes (dot :: slash :: Text.join slash body)
  | _, body => ofBytes (Text.join slash body)

/-- The path without its last component.  The root and the empty path have no
parent. -/
def parent (p : Path) : Option Path :=
  let (head, body) := p.headAndBody
  match (dropIdle body).reverse with
  | _ :: before => some (ofHeadAndBody head (dropIdle before.reverse))
  | [] => if head = some .here then some (ofBytes []) else none

/-- The last component, if it is a name. -/
def fileName (p : Path) : Option RawText :=
  match p.components.getLast? with
  | some (.normal name) => some name
  | _ => none

/-- The name before and after its last dot.  A name that starts with its last
dot is all stem. -/
def stemAndExtension (name : RawText) : RawText × Option RawText :=
  match Text.cutAfterLast dot name.bytes with
  | ([], _) => (name, none)
  | ([_], _) => (name, none)
  | (before, after) => (⟨before.dropLast⟩, some ⟨after⟩)

/-- The file name without its extension. -/
def fileStem (p : Path) : Option RawText := p.fileName.map fun name => (stemAndExtension name).1

/-- The extension of the file name. -/
def extension (p : Path) : Option RawText :=
  p.fileName.bind fun name => (stemAndExtension name).2

/-- The path and its parents, nearest first, at most `count` of them. -/
def ancestors (p : Path) : (count : Nat) → List Path
  | 0 => []
  | n + 1 => p :: (p.parent.map (ancestors · n)).getD []

end Path

end BundleConfig
