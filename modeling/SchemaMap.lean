import SchemaMap.Artifact.Package
import SchemaMap.Artifact.Quoted
import SchemaMap.Artifact.ReadBack
import SchemaMap.Artifact.Render
import SchemaMap.Artifact.TypeMap
import SchemaMap.CommandLine.Arguments
import SchemaMap.CommandLine.Program
import SchemaMap.Decimal.Double
import SchemaMap.Fault
import SchemaMap.Json.Codec
import SchemaMap.Json.Node
import SchemaMap.Json.Numeral
import SchemaMap.Json.Reader
import SchemaMap.Json.Shape
import SchemaMap.Json.Value
import SchemaMap.Main
import SchemaMap.Proofs.Artifact.DeclaredTypes
import SchemaMap.Proofs.Artifact.Escapes
import SchemaMap.Proofs.Artifact.Grouping
import SchemaMap.Proofs.Artifact.Literal
import SchemaMap.Proofs.Artifact.Mappings
import SchemaMap.Proofs.Artifact.PackageName
import SchemaMap.Proofs.Artifact.Quoting
import SchemaMap.Proofs.Artifact.Rendering
import SchemaMap.Proofs.Artifact.TypeLookup
import SchemaMap.Proofs.Distinct
import SchemaMap.Proofs.Json.Codec
import SchemaMap.Proofs.Json.Document
import SchemaMap.Proofs.Json.Lexeme
import SchemaMap.Proofs.Json.Shape
import SchemaMap.Proofs.Placewise
import SchemaMap.Proofs.Reader.DumpColumns
import SchemaMap.Proofs.Reader.DumpDeclarations
import SchemaMap.Proofs.Reader.DumpLayout
import SchemaMap.Proofs.Reader.DumpMappings
import SchemaMap.Proofs.Reader.DumpNames
import SchemaMap.Proofs.Reader.DumpNotes
import SchemaMap.Proofs.Reader.DumpReadBack
import SchemaMap.Proofs.Reader.DumpRendering
import SchemaMap.Proofs.Reader.DumpScan
import SchemaMap.Proofs.Reader.DumpTraces
import SchemaMap.Proofs.Reader.NamedTables
import SchemaMap.Proofs.Reader.PostgresUnits
import SchemaMap.Proofs.Reader.QuotedColumns
import SchemaMap.Proofs.Reader.SqlServerBatches
import SchemaMap.Proofs.Reader.TwoReadings
import SchemaMap.Proofs.Request.Check
import SchemaMap.Proofs.Run.Check
import SchemaMap.Proofs.Run.Codec
import SchemaMap.Proofs.Run.DryRun
import SchemaMap.Proofs.Run.Order
import SchemaMap.Proofs.Run.OutputPath
import SchemaMap.Proofs.Run.Process
import SchemaMap.Proofs.Run.Progress
import SchemaMap.Proofs.Run.Sources
import SchemaMap.Proofs.Run.Summary
import SchemaMap.Proofs.Script.BatchLines
import SchemaMap.Proofs.Script.Batches
import SchemaMap.Proofs.Script.BracketedTable
import SchemaMap.Proofs.Script.Chunks
import SchemaMap.Proofs.Script.JoinedTable
import SchemaMap.Proofs.Script.Parts
import SchemaMap.Proofs.Script.Places
import SchemaMap.Proofs.Script.PostgresLexemes
import SchemaMap.Proofs.Script.PostgresStatements
import SchemaMap.Proofs.Script.Region
import SchemaMap.Proofs.Script.SpelledElement
import SchemaMap.Proofs.Script.SpelledName
import SchemaMap.Proofs.Script.SpelledTable
import SchemaMap.Proofs.Script.TableHead
import SchemaMap.Proofs.Script.TablePositions
import SchemaMap.Proofs.Script.Uncommented
import SchemaMap.Proofs.Script.WrittenTable
import SchemaMap.Proofs.Sql.BracketedTable
import SchemaMap.Proofs.Sql.Lexer
import SchemaMap.Proofs.Sql.Rule
import SchemaMap.Proofs.Sql.TableRule
import SchemaMap.Proofs.Store.Basic
import SchemaMap.Proofs.Store.Path
import SchemaMap.Proofs.Store.Replacement
import SchemaMap.Proofs.Store.Writable
import SchemaMap.Proofs.Text.Basic
import SchemaMap.Proofs.Text.Class
import SchemaMap.Proofs.Text.Lines
import SchemaMap.Proofs.Text.Occurrence
import SchemaMap.Proofs.Text.Pattern
import SchemaMap.Proofs.Text.Slice
import SchemaMap.Reader.Driver
import SchemaMap.Reader.DumpLine
import SchemaMap.Reader.MySql
import SchemaMap.Reader.Postgres
import SchemaMap.Reader.SqlServer
import SchemaMap.Request.Basic
import SchemaMap.Request.Codec
import SchemaMap.Request.Load
import SchemaMap.Request.Path
import SchemaMap.Run.Codec
import SchemaMap.Run.Instant
import SchemaMap.Run.Outcome
import SchemaMap.Run.Process
import SchemaMap.Run.Progress
import SchemaMap.Schema.Basic
import SchemaMap.Schema.Codec
import SchemaMap.Schema.Name
import SchemaMap.Script.Batch
import SchemaMap.Script.Declaration
import SchemaMap.Script.Region
import SchemaMap.Script.Statement
import SchemaMap.Sql.Grammar.Change
import SchemaMap.Sql.Grammar.Expression
import SchemaMap.Sql.Grammar.Object
import SchemaMap.Sql.Grammar.Query
import SchemaMap.Sql.Grammar.Script
import SchemaMap.Sql.Grammar.Session
import SchemaMap.Sql.Grammar.Symbol
import SchemaMap.Sql.Grammar.Table
import SchemaMap.Sql.Grammar.Type
import SchemaMap.Sql.Keyword
import SchemaMap.Sql.Lexer
import SchemaMap.Sql.Rule
import SchemaMap.Sql.Statement
import SchemaMap.Sql.Token
import SchemaMap.Sql.TypeName
import SchemaMap.Store.Basic
import SchemaMap.Store.Replacement
import SchemaMap.Text.Basic
import SchemaMap.Text.Bounds
import SchemaMap.Text.Class
import SchemaMap.Text.Escaped
import SchemaMap.Text.Pattern
import SchemaMap.Yaml.Node
import SchemaMap.Yaml.Scalar
import SchemaMap.Yaml.Token
import SchemaMap.Proofs.Script.Statements
import SchemaMap.Proofs.Script.Followed
import SchemaMap.Proofs.Reader.SqlServerPieces
import SchemaMap.Proofs.Script.QuotedTable
import SchemaMap.Proofs.Script.QuotedWord
import SchemaMap.Proofs.Script.FirstPart
import SchemaMap.Proofs.Script.QuotedReadBack
