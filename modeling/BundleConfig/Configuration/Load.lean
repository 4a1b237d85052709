import BundleConfig.Configuration.Compose
import BundleConfig.Configuration.Sections
import BundleConfig.Entry.Resolve
import BundleConfig.Merge.Comment
import BundleConfig.Module.External
import BundleConfig.Project.Paths

/-!
# Loading a configuration

Loading finds the project, composes its layers, and completes the composed tree.
Completing takes the comments away, makes the paths absolute, evaluates the
expressions, and looks up the entries of the bundle.

Loading changes the file system in one way: it uses up a dynamic configuration
file.
-/

namespace BundleConfig

/-- A configuration. -/
structure Configuration where
  /-- The whole tree. -/
  tree : Json
  /-- The project. -/
  project : Project
  /-- Whether the debug mode is on. -/
  debug : Bool
  /-- The requested task. -/
  task : Option String
  /-- The kinds and names of the layers, in order. -/
  layers : List (LayerOrigin × String)
  /-- The build types. -/
  buildTypes : Table BuildType
  /-- The entries of the bundle. -/
  bundle : BundleEntries
  /-- The files of the entries. -/
  locations : EntryLocations
  /-- Which build types are needed. -/
  needed : Table Bool
  /-- The manifests of libraries that are built ahead. -/
  prebuiltManifests : List Path
  /-- The resolver of the entries. -/
  resolver : Resolver

namespace Configuration

/-! ## Completing the tree -/

/-- The tasks that build libraries ahead. -/
def prebuildingTasks : List String := ["build:dll", "watch:dll"]

/-- The tasks that use libraries built ahead. -/
def prebuiltUsingTasks : List String := ["build", "serve", "test:browser"]

/-- The tasks that need scripts in the debug mode. -/
def scriptTasks : List String := ["serve", "test:browser"]

/-- The build type of scripts. -/
def scriptTypeName : String := "javaScript"

/-- Whether the task is one of a list. -/
def isTaskAmong (task : Option String) (tasks : List String) : Bool := task.any tasks.contains

/-- Whether libraries that are built ahead are of use. -/
def usesPrebuilt (task : Option String) (manifests : List Path) : Bool :=
  isTaskAmong task prebuildingTasks
    || !manifests.isEmpty && isTaskAmong task prebuiltUsingTasks

/-- The tree with its own facts filled in, and the manifests found on the way. -/
def withFacts (fs : FileSystem) (project : Project) (debug : Bool) (tree : Json) :
    Except ConfigError (Json × List Path) := do
  let tree ← Sections.update (Merge.removeComments tree) "" fun entries =>
    (entries.insert "debug" (.bool debug)).insert "contextType" (.string project.role.toText)
  let some paths := tree.get? "path" | throw (.misfit "path" .missing)
  let paths ← ProjectPaths.resolveAll fs project.directory paths
  let tree ← Sections.update tree "" fun entries => entries.insert "path" paths
  let manifests := match Sections.text? tree "path.target.base" with
    | some target => ProjectPaths.prebuiltManifests fs ⟨target⟩
    | none => []
  let manifestPaths ← Path.listToJson manifests
  let tree ← Sections.update tree "" fun entries =>
    entries.insert "dllManifestFilePaths" manifestPaths
  pure (tree, manifests)

/-- What the expressions of the tree are evaluated in. -/
def evaluationSetting (fs : FileSystem) (project : Project) (now : Timestamp) (debug : Bool)
    (task : Option String) (manifests : List Path) : Evaluation.Context :=
  { currentPath := project.directory
    now := now
    debug := debug
    task := task.getD ""
    bindings := [("isDLLUseful", .bool (usesPrebuilt task manifests))]
    files := fs }

/-- The build types that are needed, those of the entries and perhaps scripts. -/
def neededTypes (debug : Bool) (task : Option String) (bundle : BundleEntries) : Table Bool :=
  Table.insertAll [(scriptTypeName, debug && isTaskAmong task scriptTasks)]
    bundle.neededTypes

/-- Where the build types stand in the tree. -/
def buildTypesPath : String := "buildContext.types"

/-- The configuration of an evaluated tree. -/
def ofTree (fs : FileSystem) (project : Project) (debug : Bool) (task : Option String)
    (layers : List (LayerOrigin × String)) (manifests : List Path) (tree : Json) :
    Except ConfigError Configuration := do
  let descriptions ← BuildType.consolidate (← Sections.entries tree buildTypesPath)
  let tree ← Sections.update tree buildTypesPath fun _ => descriptions
  let types ← BuildType.decodeAll (.object descriptions)
  let resolver ← Sections.resolver fs tree project.directory
  let ignored ← Sections.discoveryIgnored fs tree project.directory
  let settings ← Sections.read EntrySettings.decode {} tree "injection"
  let finder : EntryFinder := ⟨resolver, types, ignored⟩
  let bundle ← finder.resolve fs settings
  let locations := finder.locationsOf fs bundle.normalized
  let needed := neededTypes debug task bundle
  let bundleTree ← bundle.toJson
  let tree ← Sections.update tree "" fun entries =>
    (entries.insert "injection" bundleTree).insert "needed"
      (.object (needed.mapValues Json.bool))
  let locationsTree ← locations.toJson
  let tree ← Sections.update tree "module" fun entries =>
    entries.insert "locations" locationsTree
  pure
    { tree := tree
      project := project
      debug := debug
      task := task
      layers := layers
      buildTypes := types
      bundle := bundle
      locations := locations
      needed := needed
      prebuiltManifests := manifests
      resolver := resolver }

/-- The configuration of a project. -/
def ofProject (fs : FileSystem) (project : Project) (manifest dynamic : Option Json)
    (o : Purpose) : Except ConfigError Configuration := do
  let block := Layer.manifestSettings manifest
  let debug := (o.debug.orElse fun _ => (block.get? "debug").bind Json.flag?).getD
    Packaged.debugByDefault
  let arguments := (dynamic.bind DynamicFile.givenArguments?).getD o.arguments
  let task := o.taskFrom arguments
  let c ← Composition.ofLayers fs project.directory block (DynamicFile.layer dynamic arguments)
    ⟨task, debug, o.overrideFrom arguments⟩
  let (tree, manifests) ← withFacts fs project debug c.tree
  let tree ← Evaluation.evaluate (evaluationSetting fs project o.now debug task manifests) tree
  ofTree fs project debug task c.layers manifests tree

/-- Loads a configuration, which may use up a dynamic configuration file. -/
def load (fs : FileSystem) (o : Purpose) : FileSystem × Except ConfigError Configuration :=
  let project := Project.discover fs (o.context.getD fs.workingDirectory)
  let manifest := Package.manifestAt fs (project.directory.entry Package.manifestName)
  match DynamicFile.consume fs project.directory with
  | (after, .ok dynamic) => (after, ofProject after project manifest dynamic o)
  | (after, .error e) => (after, .error e)

/-! ## Questions -/

/-- The value at the path of a text. -/
def get? (c : Configuration) (path : String) : Option Json := Sections.node? c.tree path

/-- The file of a specifier, as the entries are looked up. -/
def modulePath (c : Configuration) (fs : FileSystem) (specifier : String)
    (directory : Option Path) : Option Path :=
  let context := match directory with
    | some directory => fs.resolve c.project.directory directory
    | none => c.resolver.context
  (c.resolver.seenFrom context).resolve fs specifier

/-- The request of a specifier in the environment, if it is external. -/
def externalRequest (c : Configuration) (fs : FileSystem) (specifier : String)
    (directory : Path) : Option String :=
  let context := fs.resolve c.project.directory directory
  let entries := c.bundle.normalized.values.flatten
  let o := { ExternalOptions.ofContext fs context entries with
    included := c.bundle.settings.externalSelectors
    excluded := c.bundle.settings.internalSelectors
    normalInPlace := Sections.flag c.tree "inPlace.externalLibrary.normal" false
    dynamicInPlace := Sections.flag c.tree "inPlace.externalLibrary.dynamic" true }
  c.resolver.externalRequest fs o specifier

/-- Whether a specifier without a file may be external. -/
def mayBeExternal (c : Configuration) (specifier : String) : Bool :=
  c.bundle.settings.allowsExternal specifier

end Configuration

end BundleConfig
