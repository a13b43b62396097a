import SchemaLint.Cache.Basic
import SchemaLint.Cache.Digest
import SchemaLint.Cache.Sharing
import SchemaLint.Cache.Writing
import SchemaLint.CommandLine.Argument
import SchemaLint.CommandLine.Basic
import SchemaLint.Config.Discovery
import SchemaLint.Config.IgnoreFile
import SchemaLint.Config.Settings
import SchemaLint.Failure
import SchemaLint.Files.Disk
import SchemaLint.Files.Glob
import SchemaLint.Files.Path
import SchemaLint.Files.Wildcard
import SchemaLint.Http.Address
import SchemaLint.Http.Client
import SchemaLint.Http.HostName
import SchemaLint.Http.Network
import SchemaLint.Json.Display
import SchemaLint.Json.Equal
import SchemaLint.Json.Escaped
import SchemaLint.Json.Layout
import SchemaLint.Json.Part
import SchemaLint.Json.Reader
import SchemaLint.Json.Sorted
import SchemaLint.Json.Token
import SchemaLint.Json.Value
import SchemaLint.Lint.Document
import SchemaLint.Lint.Pool
import SchemaLint.Lint.Run
import SchemaLint.Lint.Single
import SchemaLint.LintError
import SchemaLint.Main
import SchemaLint.Number.Basic
import SchemaLint.Number.Binary64
import SchemaLint.Number.Shortest
import SchemaLint.Number.Spelled
import SchemaLint.Pattern.Matcher
import SchemaLint.Pattern.Node
import SchemaLint.Pattern.Reader
import SchemaLint.Proofs.Cache.Atomic
import SchemaLint.Proofs.Cache.Entries
import SchemaLint.Proofs.Cache.Filled
import SchemaLint.Proofs.Cache.Kept
import SchemaLint.Proofs.Cache.Names
import SchemaLint.Proofs.Cache.Stored
import SchemaLint.Proofs.Cache.Tidy
import SchemaLint.Proofs.Canonical
import SchemaLint.Proofs.Classified
import SchemaLint.Proofs.Config.Chain
import SchemaLint.Proofs.Config.Decisions
import SchemaLint.Proofs.Config.IgnoreLines
import SchemaLint.Proofs.Config.Layers
import SchemaLint.Proofs.Config.Precedence
import SchemaLint.Proofs.Config.Reference
import SchemaLint.Proofs.Config.Troubles
import SchemaLint.Proofs.Files.Changes
import SchemaLint.Proofs.Files.Direct
import SchemaLint.Proofs.Files.Ignored
import SchemaLint.Proofs.Files.Linked
import SchemaLint.Proofs.Files.Offers
import SchemaLint.Proofs.Files.Paths
import SchemaLint.Proofs.Files.Real
import SchemaLint.Proofs.Files.Selection
import SchemaLint.Proofs.Files.Spelled
import SchemaLint.Proofs.Files.Tree
import SchemaLint.Proofs.Files.Walk
import SchemaLint.Proofs.Findings
import SchemaLint.Proofs.Grouping
import SchemaLint.Proofs.Http.Steady
import SchemaLint.Proofs.Json.Body
import SchemaLint.Proofs.Json.Escaped
import SchemaLint.Proofs.Json.Grammar
import SchemaLint.Proofs.Json.Keyed
import SchemaLint.Proofs.Json.Layout
import SchemaLint.Proofs.Json.Lexeme
import SchemaLint.Proofs.Json.Numeral
import SchemaLint.Proofs.Json.Ordered
import SchemaLint.Proofs.Json.Relaid
import SchemaLint.Proofs.Json.Scan
import SchemaLint.Proofs.Json.Sorted
import SchemaLint.Proofs.Json.Spacing
import SchemaLint.Proofs.Json.Tree
import SchemaLint.Proofs.Json.Visible
import SchemaLint.Proofs.Lint.Account
import SchemaLint.Proofs.Lint.Akin
import SchemaLint.Proofs.Lint.Beside
import SchemaLint.Proofs.Lint.Independent
import SchemaLint.Proofs.Lint.Isolation
import SchemaLint.Proofs.Lint.Lockstep
import SchemaLint.Proofs.Lint.Neutral
import SchemaLint.Proofs.Lint.Progress
import SchemaLint.Proofs.Lint.Separate
import SchemaLint.Proofs.Lint.Together
import SchemaLint.Proofs.Lists
import SchemaLint.Proofs.Places
import SchemaLint.Proofs.Report.Limits
import SchemaLint.Proofs.Report.Lines
import SchemaLint.Proofs.Required
import SchemaLint.Proofs.Resolver.Actions
import SchemaLint.Proofs.Resolver.Apart
import SchemaLint.Proofs.Resolver.Endings
import SchemaLint.Proofs.Resolver.Filing
import SchemaLint.Proofs.Resolver.InTurn
import SchemaLint.Proofs.Resolver.Lone
import SchemaLint.Proofs.Resolver.Serving
import SchemaLint.Proofs.Resolver.Sessions
import SchemaLint.Proofs.Resolver.SingleFlight
import SchemaLint.Proofs.Resolver.Uncached
import SchemaLint.Proofs.Results
import SchemaLint.Proofs.Schema.Agreement
import SchemaLint.Proofs.Schema.Blame
import SchemaLint.Proofs.Schema.Canonical
import SchemaLint.Proofs.Schema.Causes
import SchemaLint.Proofs.Schema.Crashes
import SchemaLint.Proofs.Schema.Looking
import SchemaLint.Proofs.Schema.Matching
import SchemaLint.Proofs.Schema.Outline
import SchemaLint.Proofs.Schema.Settling
import SchemaLint.Proofs.Schema.Trail
import SchemaLint.Proofs.Schema.Violations
import SchemaLint.Proofs.Schema.WellFormed
import SchemaLint.Proofs.Text.Encoding
import SchemaLint.Proofs.Text.Split
import SchemaLint.Proofs.Uri.Files
import SchemaLint.Proofs.Validation
import SchemaLint.Proofs.Yaml.Source
import SchemaLint.Reference
import SchemaLint.Report.Message
import SchemaLint.Resolver.Basic
import SchemaLint.Resolver.Load
import SchemaLint.Resolver.Session
import SchemaLint.Schema.Assertion
import SchemaLint.Schema.Dialect
import SchemaLint.Schema.Evaluation
import SchemaLint.Schema.Keyword
import SchemaLint.Schema.Keywords.Arrays
import SchemaLint.Schema.Keywords.Combinations
import SchemaLint.Schema.Keywords.Objects
import SchemaLint.Schema.Keywords.Scalars
import SchemaLint.Schema.Keywords.Unevaluated
import SchemaLint.Schema.Meta.Builder
import SchemaLint.Schema.Meta.Draft2019
import SchemaLint.Schema.Meta.Draft2020
import SchemaLint.Schema.Meta.Draft3
import SchemaLint.Schema.Meta.Draft4
import SchemaLint.Schema.Meta.Draft6
import SchemaLint.Schema.Meta.Draft7
import SchemaLint.Schema.Outcome
import SchemaLint.Schema.Registry
import SchemaLint.Schema.Resource
import SchemaLint.Schema.Retrieval
import SchemaLint.Schema.Types
import SchemaLint.Text.Base64
import SchemaLint.Text.Blank
import SchemaLint.Text.CodePoint
import SchemaLint.Text.Encoding
import SchemaLint.Text.Lowercase
import SchemaLint.Text.Name.Letters
import SchemaLint.Text.Name.Lookup
import SchemaLint.Text.Name.Others
import SchemaLint.Text.Name.Pictographs
import SchemaLint.Text.Name.Symbols
import SchemaLint.Text.Printable
import SchemaLint.Text.Quoted
import SchemaLint.Text.Range
import SchemaLint.Text.Split
import SchemaLint.Text.Word
import SchemaLint.Uri.Basic
import SchemaLint.Uri.Percent
import SchemaLint.Validation
import SchemaLint.Yaml.Cursor
import SchemaLint.Yaml.Kind
import SchemaLint.Yaml.Layout
import SchemaLint.Yaml.Moment
import SchemaLint.Yaml.Node
import SchemaLint.Yaml.Property
import SchemaLint.Yaml.Reader
import SchemaLint.Yaml.Scalar
import SchemaLint.Yaml.Source
import SchemaLint.Yaml.Token
import SchemaLint.Yaml.Value
