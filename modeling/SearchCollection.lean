import SearchCollection.Cast
import SearchCollection.CommandLine.Arguments
import SearchCollection.CommandLine.Command
import SearchCollection.CommandLine.Failure
import SearchCollection.CommandLine.Program
import SearchCollection.Configuration.Basic
import SearchCollection.Configuration.Files
import SearchCollection.Configuration.Text
import SearchCollection.Declaration
import SearchCollection.DeclarationFile.Basic
import SearchCollection.DeclarationFile.Folder
import SearchCollection.DeclarationFile.Reader
import SearchCollection.Document
import SearchCollection.Event
import SearchCollection.Fault
import SearchCollection.Field.Basic
import SearchCollection.Field.Outline
import SearchCollection.Field.Resolution
import SearchCollection.Files.Fault
import SearchCollection.Files.Host
import SearchCollection.Files.Path
import SearchCollection.Files.Tree
import SearchCollection.Json.Basic
import SearchCollection.Json.Printer
import SearchCollection.Json.Reader
import SearchCollection.Json.Token
import SearchCollection.Keyed
import SearchCollection.Main
import SearchCollection.Number.Binary64
import SearchCollection.Number.Decimal
import SearchCollection.Number.Layout
import SearchCollection.Number.Power
import SearchCollection.Number.Reading
import SearchCollection.Options.Basic
import SearchCollection.Options.Boolean
import SearchCollection.Options.Characters
import SearchCollection.Options.Outline
import SearchCollection.Options.Value
import SearchCollection.Proofs.Cast.Coercion
import SearchCollection.Proofs.Cast.Coordinates
import SearchCollection.Proofs.Cast.Forms
import SearchCollection.Proofs.Cast.Integers
import SearchCollection.Proofs.Cast.Settled
import SearchCollection.Proofs.Cast.Width
import SearchCollection.Proofs.CommandLine.Agreement
import SearchCollection.Proofs.CommandLine.Alone
import SearchCollection.Proofs.CommandLine.Each
import SearchCollection.Proofs.Configuration.Saved
import SearchCollection.Proofs.Configuration.Written
import SearchCollection.Proofs.Declaration
import SearchCollection.Proofs.Declaration.Insertions
import SearchCollection.Proofs.DeclarationFile.Attribution
import SearchCollection.Proofs.DeclarationFile.Grammar
import SearchCollection.Proofs.DeclarationFile.Keyed
import SearchCollection.Proofs.DeclarationFile.Listing
import SearchCollection.Proofs.DeclarationFile.Overrides
import SearchCollection.Proofs.Document.Added
import SearchCollection.Proofs.Document.Contents
import SearchCollection.Proofs.Document.Names
import SearchCollection.Proofs.Document.Order
import SearchCollection.Proofs.Document.Typed
import SearchCollection.Proofs.Document.Width
import SearchCollection.Proofs.Entries
import SearchCollection.Proofs.Field.Acceptance
import SearchCollection.Proofs.Field.Anonymous
import SearchCollection.Proofs.Field.Descriptor
import SearchCollection.Proofs.Field.Given
import SearchCollection.Proofs.Field.Order
import SearchCollection.Proofs.Field.Passes
import SearchCollection.Proofs.Field.Unused
import SearchCollection.Proofs.Files.Written
import SearchCollection.Proofs.Json.Reordered
import SearchCollection.Proofs.Keys
import SearchCollection.Proofs.Number.Nearest
import SearchCollection.Proofs.Number.Numerals
import SearchCollection.Proofs.Number.Rounding
import SearchCollection.Proofs.Options.Anonymous
import SearchCollection.Proofs.Options.Leaves
import SearchCollection.Proofs.Options.Notations
import SearchCollection.Proofs.Options.Tokens
import SearchCollection.Proofs.Record.Instants
import SearchCollection.Proofs.Registry.Accounts
import SearchCollection.Proofs.Registry.Attribution
import SearchCollection.Proofs.Registry.Fresh
import SearchCollection.Proofs.Registry.Growth
import SearchCollection.Proofs.Registry.Lookups
import SearchCollection.Proofs.Registry.Renewal
import SearchCollection.Proofs.Registry.Requests
import SearchCollection.Proofs.Registry.Residue
import SearchCollection.Proofs.Registry.Runs
import SearchCollection.Proofs.Registry.Sharing
import SearchCollection.Proofs.Registry.Transparency
import SearchCollection.Proofs.Schema.Anonymous
import SearchCollection.Proofs.Schema.Assembled
import SearchCollection.Proofs.Schema.Attribution
import SearchCollection.Proofs.Schema.Emitted
import SearchCollection.Proofs.Schema.Entries
import SearchCollection.Proofs.Schema.Order
import SearchCollection.Proofs.Schema.Searched
import SearchCollection.Proofs.Schema.Separators
import SearchCollection.Proofs.Schema.Sorting
import SearchCollection.Proofs.Text.Pieces
import SearchCollection.Proofs.Text.Trimmed
import SearchCollection.Proofs.Time.Calendar
import SearchCollection.Proofs.Time.Written
import SearchCollection.Proofs.Toml.Lines
import SearchCollection.Proofs.Toml.Tables
import SearchCollection.Proofs.Toml.Texts
import SearchCollection.Proofs.Traversal
import SearchCollection.Proofs.Value.Trees
import SearchCollection.Proofs.Value.Written
import SearchCollection.Proofs.Yaml.Steps
import SearchCollection.Record.Basic
import SearchCollection.Record.Json
import SearchCollection.RecordType
import SearchCollection.Registry.Basic
import SearchCollection.Registry.Cache
import SearchCollection.Registry.Counters
import SearchCollection.Schema.Assembly
import SearchCollection.Schema.Basic
import SearchCollection.Schema.QueryBy
import SearchCollection.SettingValue
import SearchCollection.Suitability
import SearchCollection.Text.Blank
import SearchCollection.Text.Pieces
import SearchCollection.Text.Printable
import SearchCollection.Text.Quoted
import SearchCollection.Time.Date
import SearchCollection.Time.Instant
import SearchCollection.Time.Rfc3339
import SearchCollection.Toml.Basic
import SearchCollection.Toml.Reader
import SearchCollection.Toml.Scalar
import SearchCollection.Toml.Table
import SearchCollection.Toml.Writer
import SearchCollection.Value.Basic
import SearchCollection.Value.Json
import SearchCollection.Value.Outline
import SearchCollection.Vocabulary
import SearchCollection.Yaml.Basic
import SearchCollection.Yaml.Folding
import SearchCollection.Yaml.Node
import SearchCollection.Yaml.Reader
import SearchCollection.Yaml.Scalar
import SearchCollection.Yaml.Source
import SearchCollection.Yaml.Token.Basic
import SearchCollection.Yaml.Token.Layout
import SearchCollection.Yaml.Token.Name
import SearchCollection.Yaml.Token.Scalar
