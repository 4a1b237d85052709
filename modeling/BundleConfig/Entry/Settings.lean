import BundleConfig.Entry.Given
import BundleConfig.Specifier.Selection

/-!
# Entry settings

The section `injection` of a configuration says which modules are the entries of
a bundle and how they are found.
-/

namespace BundleConfig

/-- How the entries of a bundle are found. -/
structure EntrySettings where
  /-- The specifiers that are taken out of every chunk. -/
  excluded : List String := []
  /-- The settings for the chunks of the bundle, which pass through. -/
  chunks : Json := .null
  /-- The names of the chunks that are built ahead. -/
  prebuiltChunks : List String := []
  /-- The given entries. -/
  entry : Json := .string GivenEntries.discoveryMark
  /-- The globs of the files that discovery leaves out. -/
  ignoredGlobs : List String := []
  /-- Which requests may be external when nothing is found. -/
  externalSelectors : List Selector := []
  /-- Which of these may not. -/
  internalSelectors : List Selector := []
  /-- The pattern for the names of directories that are chunks of their own. -/
  ownChunkPattern : Option String := none

namespace EntrySettings

/-- The settings a tree stands for. -/
def decode : Json → Except Mismatch EntrySettings :=
  Decode.record "InjectionSettings" {}
    [ Decode.field "autoExclude" Decode.texts fun texts s => { s with excluded := texts },
      Decode.field "chunks" Except.ok fun v s => { s with chunks := v },
      Decode.field "dllChunkNames" Decode.texts fun texts s => { s with prebuiltChunks := texts },
      Decode.field "entry" Except.ok fun v s => { s with entry := v },
      Decode.field "ignorePattern" Decode.texts fun texts s => { s with ignoredGlobs := texts },
      Decode.field "implicitExternalIncludePattern" (Decode.list Selector.decode)
        fun selectors s => { s with externalSelectors := selectors },
      Decode.field "implicitExternalExcludePattern" (Decode.list Selector.decode)
        fun selectors s => { s with internalSelectors := selectors },
      Decode.field "ownChunkDirectoryPattern" (Decode.optional Decode.text)
        fun text s => { s with ownChunkPattern := text } ]

/-- Whether a specifier without a file may be external. -/
def allowsExternal (s : EntrySettings) (specifier : String) : Bool :=
  Selector.anySelects s.externalSelectors specifier
    && !Selector.anySelects s.internalSelectors specifier

end EntrySettings

end BundleConfig
