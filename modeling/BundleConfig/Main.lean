import BundleConfig.CommandLine.Run
import Std.Time.DateTime.Timestamp

/-!
# The program

The program takes a picture of the files around the working directory, runs the
command on it, deletes the file that the command used up, and writes what the
command has to say.

The picture holds everything below the directory a command is for, and below the
nearest directory above it that has a manifest.  Of every other directory above
it, it holds the files and the module directories.  A link is pictured as what
it leads to.
-/

namespace BundleConfig

namespace Program

/-- How deep a picture goes. -/
def maxDepth : Nat := 128

/-- The picture of an entry, if it can be read. -/
def picture : (depth : Nat) → IO.FS.DirEntry → IO (Option Node)
  | 0, _ => pure none
  | depth + 1, entry => do
      try
        if ← entry.path.isDir then
          let entries ← entry.path.readDir
          let pictures ← entries.toList.mapM fun inner => do
            pure ((← picture depth inner).map fun node => (RawText.ofText inner.fileName, node))
          pure (some (.directory (pictures.filterMap id)))
        else
          pure (some (.file (← IO.FS.readBinFile entry.path)))
      catch _ => pure none

/-- Whether an entry of a directory above the project is pictured. -/
def isSeenFromBelow (entry : IO.FS.DirEntry) : IO Bool := do
  pure (entry.fileName == Project.dependencyDirectory || !(← entry.path.isDir))

/-- The pictures of some entries of a directory. -/
def picturesIn (directory : Path) (wanted : IO.FS.DirEntry → IO Bool) :
    IO (List (RawText × Node)) := do
  try
    let place ← IO.FS.realPath directory.text
    let entries ← place.readDir
    let wantedEntries ← entries.toList.filterM wanted
    let pictures ← wantedEntries.mapM fun entry => do
      pure ((← picture maxDepth entry).map fun node => (RawText.ofText entry.fileName, node))
    pure (pictures.filterMap id)
  catch _ => pure []

/-- The names from the root to a clean path. -/
def namesOf (p : Path) : List RawText :=
  p.components.filterMap fun
    | .normal name => some name
    | _ => none

/-- The entries of the root with those of a directory put in. -/
def putAll (root : Table Node RawText) (directory : Path) (entries : List (RawText × Node)) :
    Table Node RawText :=
  entries.foldl (fun root (name, node) => Node.put node (namesOf directory ++ [name]) root)
    (Node.put (.directory []) (namesOf directory) root)

/-- Whether a directory has a manifest. -/
def hasManifest (directory : Path) : IO Bool := do
  try
    let _ ← IO.FS.readBinFile (directory.entry Package.manifestName).text
    pure true
  catch _ => pure false

/-- The directories that are pictured, top first, each with whether it is
pictured as a whole. -/
def pictured (start : Path) : IO (List (Path × Bool)) := do
  let above := start.ancestors Package.maxAscent
  let project ← above.findM? hasManifest
  pure (above.reverse.map fun p => (p, p.same start || project.any p.same))

/-- The picture of the files around a directory. -/
def filesAround (workingDirectory start : Path) : IO FileSystem := do
  let mut root : Table Node RawText := Node.put (.directory []) (namesOf workingDirectory) []
  for (directory, whole) in ← pictured start do
    let wanted := if whole then fun _ => pure true else isSeenFromBelow
    root := putAll root directory (← picturesIn directory wanted)
  pure ⟨root, workingDirectory⟩

/-- Deletes a file that was there before a run and is not there any more. -/
def deleteUsed (before after : FileSystem) (directory : Path) : IO Unit := do
  match DynamicFile.find? before directory with
  | some p => if !after.isFile p then IO.FS.removeFile p.text
  | none => pure ()

/-- The current time. -/
def currentTime : IO Timestamp := do
  let now ← Std.Time.Timestamp.now
  pure ⟨now.toMillisecondsSinceUnixEpoch.val⟩

/-- The variables of the environment that count. -/
def environment : IO CommandLine.Environment := do
  let names := ["NODE_ENV", "npm_config_dev", "ASSET_COMPOSER_DEBUG", "ASSET_COMPOSER_CONTEXT"]
  let values ← names.filterMapM fun name => do
    pure ((← IO.getEnv name).map fun value => (name, value))
  pure (Table.get? values)

/-- Runs the program on the words of a command line and gives the exit code. -/
def run (words : List String) : IO UInt32 := do
  let workingDirectory : Path := ⟨(← IO.currentDir).toString⟩
  let env ← environment
  let context := match CommandLine.readCommand env words with
    | .ok command => command.load.context
    | .error _ => none
  let start := match context with
    | some text => workingDirectory.resolve ⟨text⟩ workingDirectory
    | none => workingDirectory
  let files ← filesAround workingDirectory start
  let outcome := CommandLine.run files env (← currentTime) words
  deleteUsed files outcome.files (Project.discover files start).directory
  IO.print outcome.output
  IO.eprint outcome.report
  pure outcome.code.toUInt32

end Program

end BundleConfig

/-- The program. -/
def main (words : List String) : IO UInt32 := BundleConfig.Program.run words
