import BundleConfig.Json.Basic

/-!
# Packaged layers

Three layers come with the program.  The default layer is under all others.  The
debug layer is for the debug mode, and the library layer for projects that are
libraries.  Entries with the key `#` are comments, and they are taken away after
the layers are merged.
-/

namespace BundleConfig

namespace Packaged

/-- The node that an expression computes. -/
def computedBy (expression : String) : Json := .object [("__evaluate__", .string expression)]

/-- The directories of a project. -/
def paths : Json :=
  .object [
    ("apiDocumentation", .string "apiDocumentation/"),
    ("base", .string ""),
    ("context", .string "./"),
    ("ignore", .ofTexts [".git"]),
    ("source", .object [
        ("asset", .object [
            ("base", .string ""),
            ("cascadingStyleSheet", .string "cascadingStyleSheet/"),
            ("data", .string "data/"),
            ("font", .string "font/"),
            ("image", .string "image/"),
            ("javaScript", .string "javaScript/"),
            ("template", .string "template/")]),
        ("base", .string "source/")]),
    ("target", .object [
        ("asset", .object [
            ("base", .string ""),
            ("cascadingStyleSheet", .string "cascadingStyleSheet/"),
            ("data", .string "data/"),
            ("font", .string "font/"),
            ("image", .string "image/"),
            ("javaScript", .string "javaScript/"),
            ("template", .string "template/")]),
        ("base", .string "build/"),
        ("public", .string "/")]),
    ("tidyUp", .ofTexts []),
    ("tidyUpOnClear", .ofTexts ["build/"])]

/-- The entries of a bundle. -/
def bundle : Json :=
  .object [
    ("autoExclude", .ofTexts []),
    ("chunks", .object []),
    ("dllChunkNames", .ofTexts ["vendor"]),
    ("entry", .string "__auto__"),
    ("ignorePattern", .ofTexts []),
    ("implicitExternalExcludePattern", .ofTexts []),
    ("implicitExternalIncludePattern", .ofTexts []),
    ("ownChunkDirectoryPattern", .string "")]

/-- The kinds of assets. -/
def buildTypes : Json :=
  .object [
    ("types", .object [
        ("#",
          .string ("Every descriptor is merged onto \"default\"; "
            ++ "the descriptor name is its default extension.")),
        ("default", .object [
            ("filePathPattern", .string ""),
            ("outputExtension", .string "js")]),
        ("javaScript", .object [
            ("extension", .string "js")]),
        ("cascadingStyleSheet", .object [
            ("extension", .string "css"),
            ("outputExtension", .string "css")])])]

/-- The layer under all others. -/
def base : Json :=
  .object [
    ("buildContext", buildTypes),
    ("cache", .object [
        ("main", computedBy "!debug")]),
    ("contextType", .string "main"),
    ("debug", .bool false),
    ("development", .object [
        ("server", .object [
            ("host", .string "0.0.0.0"),
            ("port", .ofNat 8080)]),
        ("tool", computedBy "debug ? 'cheap-module-source-map' : false")]),
    ("encoding", .string "utf-8"),
    ("extensions", .object [
        ("file", .object [
            ("external", .ofTexts [".js", ".json"]),
            ("internal", .ofTexts [".js", ".json", ".css"])]),
        ("module", .ofTexts [])]),
    ("files", .object [
        ("compose", .object [
            ("cascadingStyleSheet",
              computedBy "path.join(self.path.target.asset.cascadingStyleSheet, '[name].css')"),
            ("javaScript",
              computedBy "path.join(self.path.target.asset.javaScript, '[name].js')")])]),
    ("givenCommandLineArguments", .ofTexts []),
    ("hashAlgorithm", .string "md5"),
    ("inPlace", .object [
        ("externalLibrary", .object [
            ("dynamic", .bool true),
            ("normal", .bool false)])]),
    ("injection", bundle),
    ("library", .bool false),
    ("loader", .object [
        ("aliases", .object []),
        ("directoryNames", .ofTexts ["node_modules"])]),
    ("module", .object [
        ("aliases", .object []),
        ("directoryNames", .ofTexts ["node_modules"]),
        ("replacements", .object [
            ("normal", .object [])])]),
    ("offline", computedBy "!debug && task == 'build'"),
    ("package", .object [
        ("aliasPropertyNames", .ofTexts ["browser"]),
        ("main", .object [
            ("fileNames", .ofTexts ["index", "main"]),
            ("propertyNames", .ofTexts ["main", "module"])])]),
    ("path", paths),
    ("document", .object [
        ("#", .string "Task block, applied for the document task only."),
        ("path", .object [
            ("target", .object [
                ("base", .string "apiDocumentation/")])])]),
    ("serve", .object [
        ("development", .object [
            ("openBrowser", .bool true)])]),
    ("test", .object [
        ("path", .object [
            ("target", .object [
                ("base", .string "build/test/")])])]),
    ("test:browser", .object [
        ("injection", .object [
            ("dllChunkNames", .ofTexts [])])])]

/-- The layer of the debug mode. -/
def debug : Json :=
  .object [
    ("#", .string "Applied on top of the default layer in debug mode."),
    ("debug", .bool true),
    ("hashAlgorithm", .string "md4"),
    ("injection", .object [
        ("dllChunkNames", .object [
            ("__replace__", .ofTexts [])])])]

/-- The layer of a project that is a library. -/
def library : Json :=
  .object [
    ("#",
      .string ("Applied for projects built as libraries. "
        ++ "Bare module names that cannot be resolved are left to the host.")),
    ("inPlace", .object [
        ("externalLibrary", .object [
            ("dynamic", .bool true),
            ("normal", .bool false)])]),
    ("injection", .object [
        ("dllChunkNames", .ofTexts []),
        ("implicitExternalIncludePattern", .ofTexts ["/^[^./]/"])]),
    ("library", .bool true),
    ("offline", .bool false)]

/-- Whether the default layer turns the debug mode on. -/
def debugByDefault : Bool := ((base.get? "debug").bind Json.flag?).getD false

end Packaged

end BundleConfig
