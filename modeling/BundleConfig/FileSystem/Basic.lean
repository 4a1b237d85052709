import BundleConfig.Path.Clean
import BundleConfig.Table

/-!
# File systems

A *file system* is a tree of directories, files and links, with a working
directory.  Its names and the targets of its links are raw texts.  Everything
the program reads from disk it reads from such a value, and the one thing it
changes there, a deleted file, gives a new value.

*Looking up* a path follows it from the root or from the working directory,
piece by piece.  A name must be an entry of the directory reached so far, and
`..` leads to the directory above.  A piece after a file finds nothing, be it
empty: a spelling that ends in a slash denotes a directory only.  A link is
followed to its target, at most forty in one look-up.  The last piece of a
`fileAt` that does not follow links may be a link itself.

`FileSystem.walk` lists a directory and everything below it in the order in
which a walk meets it: a directory before its entries, and these sorted by
name.  It does not follow links.
-/

namespace BundleConfig

open RawText (slash dot)

/-- An entry of a directory. -/
inductive Node
  /-- A file with its bytes. -/
  | file (content : ByteArray)
  /-- A directory with its entries. -/
  | directory (entries : List (RawText × Node))
  /-- A link to a path. -/
  | link (target : RawText)

/-- The files the program sees. -/
structure FileSystem where
  /-- The entries of the root directory. -/
  root : List (RawText × Node)
  /-- The directory relative paths start from, absolute itself. -/
  workingDirectory : Path

/-- Why a file cannot be used. -/
inductive FileError
  | notFound
  | notDirectory
  | isDirectory
  | tooManyLinks
  | nameTooLong
  | nulInName
  | notText
deriving DecidableEq

/-- The wording of a fault. -/
def FileError.message : FileError → String
  | notFound => "No such file or directory (os error 2)"
  | notDirectory => "Not a directory (os error 20)"
  | isDirectory => "Is a directory (os error 21)"
  | tooManyLinks => "Too many levels of symbolic links (os error 40)"
  | nameTooLong => "File name too long (os error 36)"
  | nulInName => "file name contained an unexpected NUL byte"
  | notText => "stream did not contain valid UTF-8"

namespace Node

/-- The entries of a directory. -/
def entries? : Node → Option (Table Node RawText)
  | directory entries => some entries
  | _ => none

/-- Whether the node is a file. -/
def isFile : Node → Bool
  | file _ => true
  | _ => false

/-- Whether the node is a directory. -/
def isDirectory : Node → Bool
  | directory _ => true
  | _ => false

/-- Whether the node is a link. -/
def isLink : Node → Bool
  | link _ => true
  | _ => false

/-- The node some names below a node. -/
def at? : List RawText → Node → Option Node
  | [], node => some node
  | name :: rest, node => (node.entries?.bind (Table.get? · name)).bind (at? rest)

/-- The node with a change made to the entries of the directory some names below
it. -/
def modifyAt? (change : Table Node RawText → Table Node RawText) :
    List RawText → Node → Option Node
  | [], .directory entries => some (.directory (change entries))
  | name :: rest, .directory entries =>
      (Table.modify? entries name (modifyAt? change rest)).map .directory
  | _, _ => none

/-- The entries with a node put at some names, in directories that are made where
there are none. -/
def put (new : Node) : List RawText → Table Node RawText → Table Node RawText
  | [], entries => entries
  | [name], entries => entries.insert name new
  | name :: rest, entries =>
      let inner := ((entries.get? name).bind entries?).getD []
      entries.insert name (.directory (put new rest inner))

end Node

namespace FileSystem

/-- The root directory. -/
def top (fs : FileSystem) : Node := .directory fs.root

/-- The absolute clean path. -/
def absolute (fs : FileSystem) (p : Path) : Path := p.absolute fs.workingDirectory

/-- A path resolved against a base. -/
def resolve (fs : FileSystem) (base p : Path) : Path := base.resolve p fs.workingDirectory

/-- Whether a path is one of the locations or below one. -/
def isIn (fs : FileSystem) (p : Path) (locations : List Path) : Bool :=
  p.isIn fs.workingDirectory locations

/-! ## Look-up -/

/-- What one pass over the pieces of a path comes to. -/
inductive Passage
  /-- The directory or file at these names, last first. -/
  | arrived (names : List RawText)
  /-- A link in the directory of these names, its target, and the pieces after
  it. -/
  | linked (names : List RawText) (target : RawText) (rest : List (List UInt8))
  /-- A fault. -/
  | failed (fault : FileError)

/-- Where one piece leads. -/
inductive Move
  /-- To the directory or file at these names, last first. -/
  | onward (names : List RawText)
  /-- To a link of this name. -/
  | link (name target : RawText)
  /-- Nowhere. -/
  | failed (fault : FileError)

/-- Follows one piece.  `here` holds the names passed so far, last first. -/
def move (top : Node) (here : List RawText) (piece : List UInt8) : Move :=
  match top.at? here.reverse with
  | some (.directory entries) =>
      if piece = [] ∨ piece = [dot] then .onward here
      else if piece = [dot, dot] then .onward here.tail
      else if piece.length > 255 then .failed .nameTooLong
      else
        match Table.get? entries ⟨piece⟩ with
        | none => .failed .notFound
        | some (.link target) => .link ⟨piece⟩ target
        | some _ => .onward (⟨piece⟩ :: here)
  | _ => .failed .notDirectory

/-- Follows pieces until a link that has to be followed. -/
def pass (top : Node) (follow : Bool) (here : List RawText) : List (List UInt8) → Passage
  | [] => .arrived here
  | piece :: rest =>
      match move top here piece with
      | .onward names => pass top follow names rest
      | .link name target =>
          if rest.isEmpty && !follow then .arrived (name :: here) else .linked here target rest
      | .failed fault => .failed fault

/-- Follows pieces and at most `links` links. -/
def trace (top : Node) (follow : Bool) :
    (links : Nat) → (here : List RawText) → List (List UInt8) → Except FileError (List RawText)
  | links, here, pieces =>
      match pass top follow here pieces with
      | .arrived names => .ok names.reverse
      | .failed fault => .error fault
      | .linked directory target rest =>
          match links with
          | 0 => .error .tooManyLinks
          | links + 1 =>
              let start := if Path.isAbsolute ⟨target⟩ then [] else directory
              trace top follow links start (Text.split slash target.bytes ++ rest)

/-- The links one look-up may follow. -/
def maxLinks : Nat := 40

/-- Whether the spelling of a path has more bytes than a look-up takes. -/
def isTooLong (p : Path) : Bool := decide (4096 ≤ p.bytes.length)

/-- The names, from the root, of the node a path denotes. -/
def locate (fs : FileSystem) (p : Path) (follow : Bool) : Except FileError (List RawText) :=
  if p.bytes.isEmpty then .error .notFound
  else if p.bytes.contains 0 then .error .nulInName
  else if isTooLong p then .error .nameTooLong
  else
    let seen := if p.isAbsolute then p else fs.workingDirectory.join p
    trace fs.top follow maxLinks [] (Text.split slash seen.bytes)

/-- The node a path denotes. -/
def find (fs : FileSystem) (p : Path) (follow : Bool) : Except FileError Node := do
  let names ← fs.locate p follow
  match fs.top.at? names with
  | some node => pure node
  | none => throw .notFound

/-- The node a path denotes, links followed. -/
def get? (fs : FileSystem) (p : Path) : Option Node := (fs.find p true).toOption

/-- Whether the path denotes a regular file, links followed. -/
def isFile (fs : FileSystem) (p : Path) : Bool := (fs.get? p).any Node.isFile

/-- Whether the path denotes a directory, links followed. -/
def isDirectory (fs : FileSystem) (p : Path) : Bool := (fs.get? p).any Node.isDirectory

/-- Whether the path itself is a link. -/
def isLink (fs : FileSystem) (p : Path) : Bool :=
  (fs.find p false).toOption.any Node.isLink

/-! ## Reading and deleting -/

/-- The bytes of a file. -/
def readBytes (fs : FileSystem) (p : Path) : Except FileError ByteArray := do
  match ← fs.find p true with
  | .file content => pure content
  | _ => throw .isDirectory

/-- The text of a file. -/
def readText (fs : FileSystem) (p : Path) : Except FileError String := do
  match String.fromUTF8? (← fs.readBytes p) with
  | some text => pure text
  | none => throw .notText

/-- The file system without a file or link. -/
def delete (fs : FileSystem) (p : Path) : Except FileError FileSystem := do
  let names ← fs.locate p false
  match fs.top.at? names, names.getLast? with
  | some (.directory _), _ => throw .isDirectory
  | some _, some name =>
      match fs.top.modifyAt? (Table.erase · name) names.dropLast with
      | some (.directory entries) => pure { fs with root := entries }
      | _ => throw .notFound
  | _, _ => throw .notFound

/-! ## Listing -/

/-- Entries sorted by name. -/
def sorted (entries : Table Node RawText) : Table Node RawText :=
  entries.mergeSort fun a b => decide (a.1 ≤ b.1)

/-- The names in a directory, sorted. -/
def list? (fs : FileSystem) (p : Path) : Option (List RawText) :=
  ((fs.get? p).bind Node.entries?).map fun entries => (sorted entries).keys

end FileSystem

end BundleConfig
