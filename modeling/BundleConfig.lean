import BundleConfig.BuildType.Basic
import BundleConfig.BuildType.Files
import BundleConfig.CommandLine.Arguments
import BundleConfig.CommandLine.Command
import BundleConfig.CommandLine.Report
import BundleConfig.CommandLine.Run
import BundleConfig.Configuration.Cache
import BundleConfig.Configuration.Compose
import BundleConfig.Configuration.Load
import BundleConfig.Configuration.Options
import BundleConfig.Configuration.Sections
import BundleConfig.Decimal.Double
import BundleConfig.Decimal.Layout
import BundleConfig.Decimal.Shortest
import BundleConfig.Entry.Discovery
import BundleConfig.Entry.Given
import BundleConfig.Entry.Resolve
import BundleConfig.Entry.Settings
import BundleConfig.Error
import BundleConfig.Evaluation
import BundleConfig.Expression.Builtin
import BundleConfig.Expression.Dialogue
import BundleConfig.Expression.Interpreter
import BundleConfig.Expression.Lexer
import BundleConfig.Expression.Parser
import BundleConfig.Expression.Problem
import BundleConfig.Expression.Token
import BundleConfig.Expression.Tree
import BundleConfig.Expression.Value
import BundleConfig.FileSystem.Basic
import BundleConfig.FileSystem.Walk
import BundleConfig.Json.Basic
import BundleConfig.Json.Decode
import BundleConfig.Json.Number
import BundleConfig.Json.Printer
import BundleConfig.Json.Reader
import BundleConfig.KeyPath.Basic
import BundleConfig.KeyPath.Reader
import BundleConfig.Layer.Basic
import BundleConfig.Layer.DynamicFile
import BundleConfig.Layer.Override
import BundleConfig.Layer.Packaged
import BundleConfig.Main
import BundleConfig.Merge.Basic
import BundleConfig.Merge.Comment
import BundleConfig.Module.External
import BundleConfig.Module.Package
import BundleConfig.Module.Resolver
import BundleConfig.Path.Basic
import BundleConfig.Path.Clean
import BundleConfig.Pattern.Basic
import BundleConfig.Pattern.ByteRange
import BundleConfig.Pattern.Class
import BundleConfig.Pattern.Compact
import BundleConfig.Pattern.Expression
import BundleConfig.Pattern.Fault
import BundleConfig.Pattern.Glob
import BundleConfig.Pattern.Meaning
import BundleConfig.Pattern.Problem
import BundleConfig.Pattern.Program
import BundleConfig.Pattern.Reader.Bracket
import BundleConfig.Pattern.Reader.Escape
import BundleConfig.Pattern.Reader.Term
import BundleConfig.Pattern.Search
import BundleConfig.Pattern.Size.Basic
import BundleConfig.Pattern.Size.Letters
import BundleConfig.Pattern.Size.Meter
import BundleConfig.Pattern.Size.Set
import BundleConfig.Pattern.Source
import BundleConfig.Pattern.Term
import BundleConfig.Project.Context
import BundleConfig.Project.Paths
import BundleConfig.Proofs.BuildType.Collection
import BundleConfig.Proofs.BuildType.Consolidation
import BundleConfig.Proofs.Configuration.Cache
import BundleConfig.Proofs.Configuration.Location
import BundleConfig.Proofs.Configuration.Override
import BundleConfig.Proofs.Configuration.Stages
import BundleConfig.Proofs.Configuration.Tree
import BundleConfig.Proofs.Decimal.Integers
import BundleConfig.Proofs.Entry.Accounting
import BundleConfig.Proofs.Entry.Chunks
import BundleConfig.Proofs.Entry.Classification
import BundleConfig.Proofs.Entry.Discovery
import BundleConfig.Proofs.Entry.Exclusion
import BundleConfig.Proofs.Entry.Given
import BundleConfig.Proofs.Entry.Specifiers
import BundleConfig.Proofs.Entry.Views
import BundleConfig.Proofs.Evaluation.Cycle
import BundleConfig.Proofs.Evaluation.Fixpoint
import BundleConfig.Proofs.Evaluation.Nodes
import BundleConfig.Proofs.Evaluation.Order
import BundleConfig.Proofs.Evaluation.Solution
import BundleConfig.Proofs.Evaluation.Soundness
import BundleConfig.Proofs.Evaluation.Steps
import BundleConfig.Proofs.Expression.Dialogue
import BundleConfig.Proofs.Expression.Grammar
import BundleConfig.Proofs.Expression.Growth
import BundleConfig.Proofs.Expression.Height
import BundleConfig.Proofs.Expression.Parsing
import BundleConfig.Proofs.Expression.Reads
import BundleConfig.Proofs.Expression.References
import BundleConfig.Proofs.Expression.Tokens
import BundleConfig.Proofs.FileSystem.Lookup
import BundleConfig.Proofs.FileSystem.Removal
import BundleConfig.Proofs.FileSystem.Walk
import BundleConfig.Proofs.Json.Distinct
import BundleConfig.Proofs.Json.Keys
import BundleConfig.Proofs.Json.Order
import BundleConfig.Proofs.KeyPath.Graft
import BundleConfig.Proofs.KeyPath.Lens
import BundleConfig.Proofs.KeyPath.Spelling
import BundleConfig.Proofs.KeyPath.Writing
import BundleConfig.Proofs.Layer.ManifestBlocks
import BundleConfig.Proofs.Layer.OneShot
import BundleConfig.Proofs.Layer.References
import BundleConfig.Proofs.Layer.TaskBlocks
import BundleConfig.Proofs.Layer.Unselected
import BundleConfig.Proofs.Merge.Arrays
import BundleConfig.Proofs.Merge.Associativity
import BundleConfig.Proofs.Merge.Commented
import BundleConfig.Proofs.Merge.Comments
import BundleConfig.Proofs.Merge.Conflicts
import BundleConfig.Proofs.Merge.Directives
import BundleConfig.Proofs.Merge.Fits
import BundleConfig.Proofs.Merge.Invariant
import BundleConfig.Proofs.Merge.Inversion
import BundleConfig.Proofs.Merge.Parts
import BundleConfig.Proofs.Merge.Paths
import BundleConfig.Proofs.Merge.Plain
import BundleConfig.Proofs.Merge.RootKeys
import BundleConfig.Proofs.Merge.Stripping
import BundleConfig.Proofs.Module.Candidates
import BundleConfig.Proofs.Module.External
import BundleConfig.Proofs.Module.Ignored
import BundleConfig.Proofs.Module.Internal
import BundleConfig.Proofs.Module.Options
import BundleConfig.Proofs.Path.Containment
import BundleConfig.Proofs.Path.Resolution
import BundleConfig.Proofs.Project.Expressions
import BundleConfig.Proofs.Project.Paths
import BundleConfig.Proofs.Result
import BundleConfig.Proofs.Specifier.Alias
import BundleConfig.Proofs.Specifier.Basic
import BundleConfig.Proofs.Specifier.Rebase
import BundleConfig.Proofs.Template
import BundleConfig.Proofs.Text.Pieces
import BundleConfig.Proofs.Unicode.Letters
import BundleConfig.Specifier.Alias
import BundleConfig.Specifier.Basic
import BundleConfig.Specifier.Rebase
import BundleConfig.Specifier.RewriteRule
import BundleConfig.Specifier.Selection
import BundleConfig.Table
import BundleConfig.Template
import BundleConfig.Text.Basic
import BundleConfig.Timestamp
import BundleConfig.Unicode.Age
import BundleConfig.Unicode.Binary
import BundleConfig.Unicode.Break
import BundleConfig.Unicode.Category
import BundleConfig.Unicode.CharSet
import BundleConfig.Unicode.Derived
import BundleConfig.Unicode.Fold
import BundleConfig.Unicode.Letter
import BundleConfig.Unicode.Property
import BundleConfig.Unicode.Script
import BundleConfig.Unicode.ScriptExtension
import BundleConfig.Unicode.Table
