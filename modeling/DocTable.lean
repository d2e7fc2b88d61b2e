import DocTable.Calendar
import DocTable.Cli.Arguments
import DocTable.Cli.Run
import DocTable.Cli.Workspace
import DocTable.Codec.Decode
import DocTable.Codec.Defaults
import DocTable.Codec.Encode
import DocTable.Codec.Temporal
import DocTable.Column
import DocTable.Dialect.Basic
import DocTable.Dialect.Call
import DocTable.Environment
import DocTable.Failure.Making
import DocTable.Fault
import DocTable.Json.Outline
import DocTable.Json.Printer
import DocTable.Json.Reader
import DocTable.Main
import DocTable.Model.Basic
import DocTable.Model.Delivery
import DocTable.Model.Invocation
import DocTable.Model.Operation
import DocTable.Number.Binary64
import DocTable.Number.Decimal
import DocTable.Number.Exact
import DocTable.Number.Integer
import DocTable.Number.Shortest
import DocTable.Proofs.Codec.Cell
import DocTable.Proofs.Codec.Chronology
import DocTable.Proofs.Codec.Document
import DocTable.Proofs.Codec.Draws
import DocTable.Proofs.Codec.Encodable
import DocTable.Proofs.Codec.Extension
import DocTable.Proofs.Codec.Frame
import DocTable.Proofs.Codec.Refilling
import DocTable.Proofs.Codec.Rewriting
import DocTable.Proofs.Codec.Stopping
import DocTable.Proofs.Model.Delivery
import DocTable.Proofs.Model.Filters
import DocTable.Proofs.Model.Parameters
import DocTable.Proofs.Model.Requests
import DocTable.Proofs.Query.Chain
import DocTable.Proofs.Query.Compilable
import DocTable.Proofs.Query.Malformed
import DocTable.Proofs.Query.Operands
import DocTable.Proofs.Query.PathGrammar
import DocTable.Proofs.Query.PathLiteral
import DocTable.Proofs.Query.Refusals
import DocTable.Proofs.Query.SelectList
import DocTable.Proofs.Query.Statements
import DocTable.Proofs.Query.Unambiguous
import DocTable.Proofs.Query.Unrestricted
import DocTable.Proofs.Registry
import DocTable.Proofs.Schema.NormalForm
import DocTable.Proofs.Statement.Words
import DocTable.Proofs.Sync.Accounting
import DocTable.Proofs.Sync.Columns
import DocTable.Proofs.Sync.Convergence
import DocTable.Proofs.Sync.Declarations
import DocTable.Proofs.Sync.Identity
import DocTable.Proofs.Sync.Plan
import DocTable.Query.Builder
import DocTable.Query.Condition
import DocTable.Query.Execution
import DocTable.Query.Operator
import DocTable.Query.Path
import DocTable.Query.Pipeline
import DocTable.Query.Selection
import DocTable.Query.Sort
import DocTable.Query.Write
import DocTable.Registry
import DocTable.Schema.Describe
import DocTable.Schema.Descriptor
import DocTable.Schema.Equality
import DocTable.Schema.Marker
import DocTable.Session
import DocTable.Settings
import DocTable.Statement
import DocTable.Store.Basic
import DocTable.Store.Catalogue
import DocTable.Store.CatalogueText
import DocTable.Store.Lexeme
import DocTable.Store.Scripted
import DocTable.Store.Structural
import DocTable.Sync.Change
import DocTable.Sync.Plan
import DocTable.Sync.Run
import DocTable.Text.Basic
import DocTable.Text.Case
import DocTable.Text.CaseTable
import DocTable.Text.Class
import DocTable.Text.ClassTable
import DocTable.Text.FileName
import DocTable.Text.Half
import DocTable.Text.PatternFlags
import DocTable.Text.Quoted
import DocTable.Value.Basic
import DocTable.Value.Display
import DocTable.Value.Document
import DocTable.Value.Elements
import DocTable.Value.Entries
import DocTable.Value.Equality
import DocTable.Value.Whole
import DocTable.Proofs.Model.Creation
import DocTable.Proofs.Value.Rearranged
import DocTable.Proofs.Json.MemberOrder
import DocTable.Proofs.Cli.SchemaOrder
