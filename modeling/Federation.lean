import Federation.Cli.App
import Federation.Cli.Command
import Federation.Cli.Help
import Federation.Cli.Parse
import Federation.Cli.Similarity
import Federation.Composition
import Federation.Configuration.Loader
import Federation.Configuration.Scaffold
import Federation.Configuration.Settings
import Federation.Data.Json
import Federation.Data.Table
import Federation.Fault
import Federation.FieldSet
import Federation.Ledger
import Federation.Main
import Federation.Metadata
import Federation.Proofs.Annotation
import Federation.Proofs.Assemble
import Federation.Proofs.BlockString
import Federation.Proofs.Builder
import Federation.Proofs.CommandOutcome
import Federation.Proofs.ConfigurationRules
import Federation.Proofs.Extend
import Federation.Proofs.Failure
import Federation.Proofs.FieldSetReading
import Federation.Proofs.Ledger
import Federation.Proofs.MergeLaw
import Federation.Proofs.MetadataEntries
import Federation.Proofs.NumberReading
import Federation.Proofs.OrderIndependence
import Federation.Proofs.Ownership
import Federation.Proofs.Phantom
import Federation.Proofs.Provenance
import Federation.Proofs.QuotedString
import Federation.Proofs.Reference
import Federation.Proofs.Resolution
import Federation.Proofs.RootWiring
import Federation.Proofs.ScannedTokens
import Federation.Proofs.Scanning
import Federation.Proofs.SelectionCompleteness
import Federation.Proofs.SelectionPrinting
import Federation.Proofs.SelectionReading
import Federation.Proofs.SelectionRoundTrip
import Federation.Proofs.SelectionTokens
import Federation.Proofs.SkippedExtensions
import Federation.Proofs.Table
import Federation.Proofs.Unbuildable
import Federation.Report
import Federation.Schema.Basic
import Federation.Schema.Build
import Federation.Schema.Builtin
import Federation.Schema.Literal
import Federation.Schema.Printer
import Federation.Schema.Suggestion
import Federation.Schema.Validation
import Federation.Service
import Federation.ServiceFile
import Federation.Syntax.Ast
import Federation.Syntax.Lexer
import Federation.Syntax.Location
import Federation.Syntax.Parser
import Federation.Syntax.Printer
import Federation.Syntax.StringLiteral
import Federation.Syntax.Token
import Federation.Text.Alphanumeric
import Federation.Text.Blank
import Federation.Text.Case
import Federation.Text.Decimal
import Federation.Text.Digits
import Federation.Text.Printable
import Federation.Text.Quote
import Federation.Text.Ranges
import Federation.Text.Utf8
import Federation.Workspace.FileSystem
import Federation.Workspace.Memory
import Federation.Workspace.Path
import Federation.Yaml.Compose
import Federation.Yaml.Construct
import Federation.Yaml.Parser
import Federation.Yaml.Pattern
import Federation.Yaml.Resolve
import Federation.Yaml.Scalar
import Federation.Yaml.Scanner
import Federation.Yaml.Syntax
import Federation.Yaml.Value
