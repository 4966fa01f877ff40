import TableModel.ColumnType
import TableModel.Database.Action
import TableModel.Database.Prepared
import TableModel.Failure
import TableModel.Keyed
import TableModel.Label
import TableModel.Logging.Files
import TableModel.Logging.Level
import TableModel.Logging.Record
import TableModel.Logging.State
import TableModel.Logging.Template
import TableModel.Model.Basic
import TableModel.Number.Binary64
import TableModel.Proofs.Checks
import TableModel.Proofs.Database.Chronicle
import TableModel.Proofs.Database.Execution
import TableModel.Proofs.Database.Transaction
import TableModel.Proofs.Escapes
import TableModel.Proofs.FirstFault
import TableModel.Proofs.Logging.Agreement
import TableModel.Proofs.Logging.Coloring
import TableModel.Proofs.Logging.Colors
import TableModel.Proofs.Logging.FailedSetup
import TableModel.Proofs.Logging.Files
import TableModel.Proofs.Logging.Handlers
import TableModel.Proofs.Logging.Turns
import TableModel.Proofs.Model.Filter
import TableModel.Proofs.Model.Plan
import TableModel.Proofs.Model.Preconditions
import TableModel.Proofs.Model.Requests
import TableModel.Proofs.Schema.DefaultLiteral
import TableModel.Proofs.Schema.Escapes
import TableModel.Proofs.Schema.Faults
import TableModel.Proofs.Schema.FirstBroken
import TableModel.Proofs.Schema.Layout
import TableModel.Proofs.Schema.Literal
import TableModel.Proofs.Schema.PrimaryKey
import TableModel.Proofs.Schema.Reading
import TableModel.Proofs.Schema.Restated
import TableModel.Proofs.Schema.Spellings
import TableModel.Proofs.Schema.Unambiguous
import TableModel.Proofs.Schema.WellFormed
import TableModel.Proofs.Session.Account
import TableModel.Proofs.Session.FirstRow
import TableModel.Proofs.Session.Frame
import TableModel.Proofs.Session.History
import TableModel.Proofs.Session.Insertion
import TableModel.Proofs.Session.Plan
import TableModel.Proofs.Session.Rejection
import TableModel.Proofs.Session.Stability
import TableModel.Proofs.Session.Transactions
import TableModel.Proofs.Statement.Accepted
import TableModel.Proofs.Statement.Documented
import TableModel.Proofs.Statement.Escapes
import TableModel.Proofs.Statement.Layout
import TableModel.Proofs.Statement.OrderClause
import TableModel.Proofs.Statement.Ordering
import TableModel.Proofs.Statement.Placeholders
import TableModel.Proofs.Statement.Reading
import TableModel.Proofs.Statement.Shape
import TableModel.Proofs.Statement.Spellings
import TableModel.Proofs.Statement.Unambiguous
import TableModel.Proofs.Statement.UnknownKeys
import TableModel.Proofs.Statement.ValueBlind
import TableModel.Proofs.Text.Occurrences
import TableModel.Proofs.Text.SelfDelimiting
import TableModel.Proofs.UnknownKeys
import TableModel.Proofs.Value.Key
import TableModel.Proofs.Value.Names
import TableModel.Proofs.Value.PlainName
import TableModel.Proofs.Value.Spellings
import TableModel.Schema.Basic
import TableModel.Schema.Definition
import TableModel.Schema.Error
import TableModel.Schema.Rendering
import TableModel.Schema.Validation
import TableModel.Session.Basic
import TableModel.Settings
import TableModel.Statement.Basic
import TableModel.Statement.Error
import TableModel.Statement.Fragment
import TableModel.Statement.OrderSpec
import TableModel.Statement.Request
import TableModel.StatementKind
import TableModel.Text.Blank
import TableModel.Text.Case
import TableModel.Text.Printable
import TableModel.Text.Quoted
import TableModel.Text.Word
import TableModel.Value
import TableModel.Value.Key
import TableModel.Value.Literal
import TableModel.Value.Names
