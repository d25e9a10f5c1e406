import SchemaCodegen.Audit
import SchemaCodegen.Breakdown
import SchemaCodegen.Code.Constraints
import SchemaCodegen.Code.Expression
import SchemaCodegen.Code.Imports
import SchemaCodegen.Code.Module
import SchemaCodegen.Code.Vocabulary
import SchemaCodegen.ColumnType
import SchemaCodegen.ColumnType.Basic
import SchemaCodegen.ColumnType.Postgresql
import SchemaCodegen.ColumnType.SqlServer
import SchemaCodegen.CommandLine.Arguments
import SchemaCodegen.CommandLine.Misuse
import SchemaCodegen.CommandLine.Run
import SchemaCodegen.CommandLine.Switch
import SchemaCodegen.CommandLine.Usage
import SchemaCodegen.CommandLine.Word
import SchemaCodegen.Dependency.Component
import SchemaCodegen.Dependency.Graph
import SchemaCodegen.Dependency.Order
import SchemaCodegen.Document
import SchemaCodegen.Document.Listing
import SchemaCodegen.FileSystem.Basic
import SchemaCodegen.FileSystem.Disk
import SchemaCodegen.FileSystem.Path
import SchemaCodegen.Finding
import SchemaCodegen.Generation
import SchemaCodegen.Json.Flaw
import SchemaCodegen.Json.Reader
import SchemaCodegen.Json.Token
import SchemaCodegen.Log
import SchemaCodegen.Main
import SchemaCodegen.Moment
import SchemaCodegen.Naming.Names
import SchemaCodegen.Naming.Singular
import SchemaCodegen.Naming.Words
import SchemaCodegen.Number.Binary64
import SchemaCodegen.Number.Shortest
import SchemaCodegen.Options
import SchemaCodegen.Proofs.Audit.Degradations
import SchemaCodegen.Proofs.Audit.Findings
import SchemaCodegen.Proofs.Audit.UnknownTypes
import SchemaCodegen.Proofs.Code.Blocks
import SchemaCodegen.Proofs.Code.ImportLines
import SchemaCodegen.Proofs.Code.ImportOrder
import SchemaCodegen.Proofs.Code.Imports
import SchemaCodegen.Proofs.Code.Layout
import SchemaCodegen.Proofs.Code.LiteralCalls
import SchemaCodegen.Proofs.Code.Plain
import SchemaCodegen.Proofs.Code.ReadBack
import SchemaCodegen.Proofs.Code.Scan
import SchemaCodegen.Proofs.Code.Symbols
import SchemaCodegen.Proofs.Code.Vocabulary
import SchemaCodegen.Proofs.Code.Words
import SchemaCodegen.Proofs.ColumnType.Cases
import SchemaCodegen.Proofs.ColumnType.Element
import SchemaCodegen.Proofs.ColumnType.Enumeration
import SchemaCodegen.Proofs.ColumnType.Layers
import SchemaCodegen.Proofs.CommandLine.Run
import SchemaCodegen.Proofs.Dependency.Circles
import SchemaCodegen.Proofs.Dependency.ComponentOrder
import SchemaCodegen.Proofs.Dependency.ComponentWalk
import SchemaCodegen.Proofs.Dependency.GraphWork
import SchemaCodegen.Proofs.Dependency.Leaders
import SchemaCodegen.Proofs.Dependency.NestedLoop
import SchemaCodegen.Proofs.Dependency.Numbering
import SchemaCodegen.Proofs.Dependency.Postorder
import SchemaCodegen.Proofs.Dependency.Recursion
import SchemaCodegen.Proofs.Dependency.SearchClose
import SchemaCodegen.Proofs.Dependency.SearchJournal
import SchemaCodegen.Proofs.Dependency.SearchMoves
import SchemaCodegen.Proofs.Dependency.SearchRun
import SchemaCodegen.Proofs.Dependency.SearchState
import SchemaCodegen.Proofs.Dependency.Settled
import SchemaCodegen.Proofs.Dependency.TableOrder
import SchemaCodegen.Proofs.Dependency.Targets
import SchemaCodegen.Proofs.FileSystem.Disk
import SchemaCodegen.Proofs.FileSystem.Replace
import SchemaCodegen.Proofs.Generation
import SchemaCodegen.Proofs.Naming.ClaimedInTurn
import SchemaCodegen.Proofs.Naming.Crowding
import SchemaCodegen.Proofs.Naming.FreeName
import SchemaCodegen.Proofs.Naming.Identifier
import SchemaCodegen.Proofs.Naming.Plain
import SchemaCodegen.Proofs.Naming.Words
import SchemaCodegen.Proofs.Schema.Acceptance
import SchemaCodegen.Proofs.Schema.Fields
import SchemaCodegen.Proofs.Schema.Listed
import SchemaCodegen.Proofs.Schema.Reading
import SchemaCodegen.Proofs.Schema.Records
import SchemaCodegen.Proofs.Schema.RoundTrip
import SchemaCodegen.Proofs.ServerDefault.Balance
import SchemaCodegen.Proofs.ServerDefault.CastPosition
import SchemaCodegen.Proofs.ServerDefault.Layers
import SchemaCodegen.Proofs.ServerDefault.Malformed
import SchemaCodegen.Proofs.ServerDefault.Parentheses
import SchemaCodegen.Proofs.ServerDefault.Sequence
import SchemaCodegen.Proofs.ServerDefault.StrippedCasts
import SchemaCodegen.Proofs.ServerDefault.TypeName
import SchemaCodegen.Proofs.ServerDefault.Typecast
import SchemaCodegen.Proofs.Style.Bindings
import SchemaCodegen.Proofs.Style.Columns
import SchemaCodegen.Proofs.Style.DistinctNames
import SchemaCodegen.Proofs.Style.Erasure
import SchemaCodegen.Proofs.Style.ForeignKeys
import SchemaCodegen.Proofs.Style.Hiding
import SchemaCodegen.Proofs.Style.Imports
import SchemaCodegen.Proofs.Style.Lexical
import SchemaCodegen.Proofs.Style.LineCount
import SchemaCodegen.Proofs.Style.Parts
import SchemaCodegen.Proofs.Style.Placement
import SchemaCodegen.Proofs.Style.Plain
import SchemaCodegen.Proofs.Style.References
import SchemaCodegen.Proofs.Style.Symbols
import SchemaCodegen.Proofs.Style.Uniqueness
import SchemaCodegen.Proofs.Style.Words
import SchemaCodegen.Proofs.Style.Written
import SchemaCodegen.Proofs.Text.Case
import SchemaCodegen.Proofs.Text.Lines
import SchemaCodegen.Proofs.Text.Literal
import SchemaCodegen.Proofs.Text.Plain
import SchemaCodegen.Proofs.Text.Run
import SchemaCodegen.Proofs.Text.SmallForm
import SchemaCodegen.Proofs.Text.Trim
import SchemaCodegen.Schema.Basic
import SchemaCodegen.Schema.Checked
import SchemaCodegen.Schema.Description
import SchemaCodegen.Schema.Dump
import SchemaCodegen.Schema.Fault
import SchemaCodegen.Schema.Invariant
import SchemaCodegen.Schema.Keys
import SchemaCodegen.Schema.Reading
import SchemaCodegen.Schema.Scalar
import SchemaCodegen.Schema.Selection
import SchemaCodegen.Schema.Writing
import SchemaCodegen.SchemaFile
import SchemaCodegen.ServerDefault
import SchemaCodegen.ServerDefault.Balance
import SchemaCodegen.ServerDefault.Parentheses
import SchemaCodegen.ServerDefault.Typecast
import SchemaCodegen.Style
import SchemaCodegen.Style.Declarative
import SchemaCodegen.Style.TableObjects
import SchemaCodegen.Text.Blank
import SchemaCodegen.Text.Case
import SchemaCodegen.Text.CaseTable
import SchemaCodegen.Text.Digits
import SchemaCodegen.Text.Half
import SchemaCodegen.Text.IdentifierCharacter
import SchemaCodegen.Text.Lines
import SchemaCodegen.Text.Listing
import SchemaCodegen.Text.Literal
import SchemaCodegen.Text.Printable
import SchemaCodegen.Text.Split
import SchemaCodegen.Text.Utf8
import SchemaCodegen.Text.WordCharacter
import SchemaCodegen.Yaml
import SchemaCodegen.Yaml.Base64
import SchemaCodegen.Yaml.Cell
import SchemaCodegen.Yaml.Flaw
import SchemaCodegen.Yaml.Folding
import SchemaCodegen.Yaml.Graph
import SchemaCodegen.Yaml.Kind
import SchemaCodegen.Yaml.Layout
import SchemaCodegen.Yaml.Merge
import SchemaCodegen.Yaml.Node
import SchemaCodegen.Yaml.Number
import SchemaCodegen.Yaml.Property
import SchemaCodegen.Yaml.Scalar.Block
import SchemaCodegen.Yaml.Scalar.Plain
import SchemaCodegen.Yaml.Scalar.Quoted
import SchemaCodegen.Yaml.Scan
import SchemaCodegen.Yaml.Timestamp
import SchemaCodegen.Yaml.Token
import SchemaCodegen.Yaml.Value
