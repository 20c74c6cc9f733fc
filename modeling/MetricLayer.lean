import MetricLayer.Calendar.Date
import MetricLayer.Calendar.DateBound
import MetricLayer.Cli.Arguments
import MetricLayer.Cli.Command
import MetricLayer.Cli.Help
import MetricLayer.Cli.Outcome
import MetricLayer.Compile.Column
import MetricLayer.Compile.CompiledQuery
import MetricLayer.Compile.Conjunct
import MetricLayer.Compile.DialectMismatch
import MetricLayer.Compile.JoinPlan
import MetricLayer.Compile.Selection
import MetricLayer.Decimal.Binary64
import MetricLayer.Decimal.Numeral
import MetricLayer.Decimal.Shortest
import MetricLayer.Digest.Sha256
import MetricLayer.Json.Basic
import MetricLayer.Json.Reader
import MetricLayer.Json.Writer
import MetricLayer.Keyword
import MetricLayer.Main
import MetricLayer.Proofs.Agreement
import MetricLayer.Proofs.Calendar.IsoText
import MetricLayer.Proofs.Calendar.Order
import MetricLayer.Proofs.Calendar.Period
import MetricLayer.Proofs.Calendar.TextOrder
import MetricLayer.Proofs.Calendar.WrittenDate
import MetricLayer.Proofs.Cli.Listing
import MetricLayer.Proofs.Compile.Acceptance
import MetricLayer.Proofs.Compile.BoundTexts
import MetricLayer.Proofs.Compile.Classroom
import MetricLayer.Proofs.Compile.Column
import MetricLayer.Proofs.Compile.Compilation
import MetricLayer.Proofs.Compile.Conjunct
import MetricLayer.Proofs.Compile.Containment
import MetricLayer.Proofs.Compile.DateRange
import MetricLayer.Proofs.Compile.Dialects
import MetricLayer.Proofs.Compile.Fingerprint
import MetricLayer.Proofs.Compile.FirstOccurrences
import MetricLayer.Proofs.Compile.Grouping
import MetricLayer.Proofs.Compile.JoinPlan
import MetricLayer.Proofs.Compile.Lexical
import MetricLayer.Proofs.Compile.MemberOrder
import MetricLayer.Proofs.Compile.Numbering
import MetricLayer.Proofs.Compile.OutputColumns
import MetricLayer.Proofs.Compile.Pagination
import MetricLayer.Proofs.Compile.Precedence
import MetricLayer.Proofs.Compile.Reachability
import MetricLayer.Proofs.Compile.RowLimits
import MetricLayer.Proofs.Compile.Scope
import MetricLayer.Proofs.Compile.Secrecy
import MetricLayer.Proofs.Compile.Selection
import MetricLayer.Proofs.Compile.SortOrder
import MetricLayer.Proofs.Compile.Statement
import MetricLayer.Proofs.Compile.Tables
import MetricLayer.Proofs.Compile.UnknownNames
import MetricLayer.Proofs.Decimal.RoundingInterval
import MetricLayer.Proofs.Decimal.Writing
import MetricLayer.Proofs.Digest.Collision
import MetricLayer.Proofs.Fallible
import MetricLayer.Proofs.Items
import MetricLayer.Proofs.Json.Controls
import MetricLayer.Proofs.Json.Grammar
import MetricLayer.Proofs.Json.Lexical
import MetricLayer.Proofs.Json.Reading
import MetricLayer.Proofs.Json.Writing
import MetricLayer.Proofs.Request.Faults
import MetricLayer.Proofs.Request.RecordForm
import MetricLayer.Proofs.Request.Respelling
import MetricLayer.Proofs.Request.RoundTrip
import MetricLayer.Proofs.Schema.Building
import MetricLayer.Proofs.Schema.DeclarationOrder
import MetricLayer.Proofs.Schema.Draft
import MetricLayer.Proofs.Schema.JoinGraph
import MetricLayer.Proofs.Schema.SelfContained
import MetricLayer.Proofs.Settings.Duration
import MetricLayer.Proofs.Settings.Template
import MetricLayer.Proofs.Sql.Building
import MetricLayer.Proofs.Sql.Composition
import MetricLayer.Proofs.Sql.Condition
import MetricLayer.Proofs.Sql.Lexeme
import MetricLayer.Proofs.Sql.Meaning
import MetricLayer.Proofs.Sql.Operand
import MetricLayer.Proofs.Sql.Parameters
import MetricLayer.Proofs.Sql.Placeholders
import MetricLayer.Proofs.Sql.Portability
import MetricLayer.Proofs.Sql.Quotation
import MetricLayer.Proofs.Sql.Rendering
import MetricLayer.Proofs.Sql.Scanning
import MetricLayer.Proofs.Sql.Term.Consumption
import MetricLayer.Proofs.Sql.Term.Locality
import MetricLayer.Proofs.Sql.Term.Operand
import MetricLayer.Proofs.Sql.Term.Reading
import MetricLayer.Proofs.Sql.Term.Separator
import MetricLayer.Proofs.Sql.Term.Shape
import MetricLayer.Proofs.Sqlite.Bucket
import MetricLayer.Proofs.Sqlite.Documentation
import MetricLayer.Proofs.Text.ByteOrder
import MetricLayer.Request.Basic
import MetricLayer.Request.Error
import MetricLayer.Request.Wire
import MetricLayer.Schema.Basic
import MetricLayer.Schema.Classroom
import MetricLayer.Schema.Draft
import MetricLayer.Schema.Error
import MetricLayer.Schema.JoinGraph
import MetricLayer.Schema.Registry
import MetricLayer.Settings.Basic
import MetricLayer.Settings.Location
import MetricLayer.Settings.Text
import MetricLayer.Sql.Dialect
import MetricLayer.Sql.Expr
import MetricLayer.Sql.Lexeme
import MetricLayer.Sql.Query
import MetricLayer.Sql.Term
import MetricLayer.Sql.Term.Reader
import MetricLayer.Sql.Token
import MetricLayer.Text.Letter
import MetricLayer.Text.LikePattern
import MetricLayer.Text.Quoted
import MetricLayer.Text.Uppercase
import MetricLayer.Toml.Document
import MetricLayer.Toml.Reader
import MetricLayer.Toml.Value
import MetricLayer.Value
