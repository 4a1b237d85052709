import BundleConfig.Configuration.Load
import BundleConfig.Proofs.Result

/-!
# The stages of a load

`exists_stages` takes a load that succeeds apart, once for all proofs about loading.
What the project and the dynamic configuration file bring is the *ground* of a load.
From there on nothing is read but files, and each stage is the result of one function:
the layers are composed, the facts of the project are filled in, the expressions are
evaluated, and the entries are looked up.
-/

namespace BundleConfig

/-- What a configuration is composed from. -/
structure Ground where
  /-- The files that are left. -/
  files : FileSystem
  /-- The project. -/
  project : Project
  /-- The project's manifest. -/
  manifest : Option Json
  /-- The settings of a dynamic configuration file. -/
  dynamic : Option Json
  /-- The options. -/
  purpose : Purpose

namespace Ground

/-- What a load finds. -/
def ofLoad (fs : FileSystem) (o : Purpose) : Except ConfigError Ground :=
  let project := Project.discover fs (o.context.getD fs.workingDirectory)
  let manifest := Package.manifestAt fs (project.directory.entry Package.manifestName)
  let used := DynamicFile.consume fs project.directory
  used.2.map fun dynamic => ⟨used.1, project, manifest, dynamic, o⟩

variable (g : Ground)

/-- The settings in the manifest. -/
def block : Json := Layer.manifestSettings g.manifest

/-- Whether the debug mode is on. -/
def debug : Bool :=
  (g.purpose.debug.orElse fun _ => (g.block.get? "debug").bind Json.flag?).getD
    Packaged.debugByDefault

/-- The arguments, which a dynamic configuration file may record. -/
def arguments : List String :=
  (g.dynamic.bind DynamicFile.givenArguments?).getD g.purpose.arguments

/-- The requested task. -/
def task : Option String := g.purpose.taskFrom g.arguments

/-- The text of the override. -/
def override? : Option String := g.purpose.overrideFrom g.arguments

/-- The composition of the layers, with the text of an override or without one. -/
def compose (override : Option String) : Except ConfigError Composition :=
  Composition.ofLayers g.files g.project.directory g.block
    (DynamicFile.layer g.dynamic g.arguments) ⟨g.task, g.debug, override⟩

/-- What expressions are evaluated in. -/
def setting (manifests : List Path) : Evaluation.Context :=
  Configuration.evaluationSetting g.files g.project g.purpose.now g.debug g.task manifests

end Ground

namespace Configuration

/-- The stages between the ground and the configuration. -/
structure Stages (g : Ground) (c : Configuration) where
  composition : Composition
  factual : Json
  manifests : List Path
  evaluated : Json
  described : Table Json
  types : Table Json
  typed : Json
  finder : EntryFinder
  settings : EntrySettings
  bundleTree : Json
  bundled : Json
  locationsTree : Json
  /-- The layers are composed. -/
  composed : g.compose g.override? = .ok composition
  /-- The facts of the project are filled in. -/
  hasFacts : withFacts g.files g.project g.debug composition.tree = .ok (factual, manifests)
  /-- The expressions are evaluated. -/
  isEvaluated : Evaluation.evaluate (g.setting manifests) factual = .ok evaluated
  /-- The build types are completed. -/
  isDescribed : Sections.entries evaluated buildTypesPath = .ok described
  consolidated : BuildType.consolidate described = .ok types
  hasTypes : Sections.update evaluated buildTypesPath (fun _ => types) = .ok typed
  /-- The finder and its settings are read from the tree. -/
  resolver : finder.resolver = c.resolver
  hasResolver : Sections.resolver g.files typed g.project.directory = .ok c.resolver
  decoded : BuildType.decodeAll (.object types) = .ok finder.buildTypes
  hasIgnored : Sections.discoveryIgnored g.files typed g.project.directory = .ok finder.ignored
  hasSettings : Sections.read EntrySettings.decode {} typed "injection" = .ok settings
  /-- The entries are looked up. -/
  isBundled : finder.resolve g.files settings = .ok c.bundle
  /-- The entries are written to the tree. -/
  hasBundleTree : c.bundle.toJson = .ok bundleTree
  hasBundle : Sections.update typed "" (fun entries =>
    (entries.insert "injection" bundleTree).insert "needed"
      (.object (c.needed.mapValues Json.bool))) = .ok bundled
  /-- The files of the entries are written to the tree. -/
  hasLocationsTree : c.locations.toJson = .ok locationsTree
  hasLocations : Sections.update bundled "module" (fun entries =>
    entries.insert "locations" locationsTree) = .ok c.tree

variable {fs after : FileSystem} {o : Purpose} {c : Configuration}

theorem exists_ground (h : load fs o = (after, .ok c)) :
    ∃ g, Ground.ofLoad fs o = .ok g ∧ g.files = after ∧
      ofProject g.files g.project g.manifest g.dynamic g.purpose = .ok c := by
  unfold load at h
  unfold Ground.ofLoad
  dsimp only at h ⊢
  generalize Project.discover fs _ = project at h ⊢
  generalize Package.manifestAt fs _ = manifest at h ⊢
  generalize DynamicFile.consume fs _ = used at h ⊢
  obtain ⟨left, dynamic⟩ := used
  cases dynamic with
  | error e => cases h
  | ok dynamic =>
      obtain ⟨rfl, hc⟩ := Prod.mk.inj h
      exact ⟨⟨left, project, manifest, dynamic, o⟩, rfl, rfl, hc⟩

/-- The files that are left and the configuration, if a load succeeds. -/
def loaded? (fs : FileSystem) (o : Purpose) : Option (FileSystem × Configuration) :=
  match load fs o with
  | (after, .ok c) => some (after, c)
  | (_, .error _) => none

theorem loaded?_eq_some_iff : loaded? fs o = some (after, c) ↔ load fs o = (after, .ok c) := by
  unfold loaded?
  generalize load fs o = outcome
  obtain ⟨left, result⟩ := outcome
  cases result <;> simp

/-- A load that passes a check succeeds. -/
theorem exists_of_any {check : FileSystem × Configuration → Bool}
    (h : (loaded? fs o).any check = true) :
    ∃ after c, load fs o = (after, .ok c) ∧ check (after, c) = true := by
  cases hloaded : loaded? fs o with
  | none =>
      rw [hloaded] at h
      cases h
  | some left =>
      rw [hloaded] at h
      exact ⟨left.1, left.2, loaded?_eq_some_iff.mp hloaded, h⟩

/-- A load that succeeds has gone through its stages. -/
theorem exists_stages (h : load fs o = (after, .ok c)) :
    ∃ g, Ground.ofLoad fs o = .ok g ∧ g.files = after ∧ Nonempty (Stages g c) := by
  obtain ⟨g, hg, hfiles, h⟩ := exists_ground h
  refine ⟨g, hg, hfiles, ?_⟩
  obtain ⟨composition, composed, h⟩ := bind_eq_ok.mp h
  obtain ⟨⟨factual, manifests⟩, hasFacts, h⟩ := bind_eq_ok.mp h
  obtain ⟨evaluated, isEvaluated, h⟩ := bind_eq_ok.mp h
  obtain ⟨described, isDescribed, h⟩ := bind_eq_ok.mp h
  obtain ⟨types, consolidated, h⟩ := bind_eq_ok.mp h
  obtain ⟨typed, hasTypes, h⟩ := bind_eq_ok.mp h
  obtain ⟨buildTypes, decoded, h⟩ := bind_eq_ok.mp h
  obtain ⟨resolver, hasResolver, h⟩ := bind_eq_ok.mp h
  obtain ⟨ignored, hasIgnored, h⟩ := bind_eq_ok.mp h
  obtain ⟨settings, hasSettings, h⟩ := bind_eq_ok.mp h
  obtain ⟨entries, isBundled, h⟩ := bind_eq_ok.mp h
  obtain ⟨bundleTree, hasBundleTree, h⟩ := bind_eq_ok.mp h
  obtain ⟨bundled, hasBundle, h⟩ := bind_eq_ok.mp h
  obtain ⟨locationsTree, hasLocationsTree, h⟩ := bind_eq_ok.mp h
  obtain ⟨located, hasLocations, h⟩ := bind_eq_ok.mp h
  cases h
  exact ⟨{
    composition, factual, manifests, evaluated, described, types, typed, settings
    bundleTree, bundled, locationsTree
    composed, hasFacts, isEvaluated, isDescribed, consolidated, hasTypes
    finder := ⟨resolver, buildTypes, ignored⟩
    resolver := rfl
    hasResolver, decoded, hasIgnored, hasSettings, isBundled, hasBundleTree, hasBundle
    hasLocationsTree, hasLocations }⟩

end Configuration

end BundleConfig
