import PgGateway.Catalog.Argument
import PgGateway.Catalog.Collection
import PgGateway.Catalog.Filter
import PgGateway.Catalog.Fulltext
import PgGateway.Catalog.Index
import PgGateway.Catalog.JsonColumn
import PgGateway.Catalog.Listing
import PgGateway.Catalog.Maintenance
import PgGateway.Catalog.Standard
import PgGateway.Catalog.Statement
import PgGateway.Catalog.Statistics
import PgGateway.Catalog.Table
import PgGateway.Config.Database
import PgGateway.Config.Environment
import PgGateway.Config.Server
import PgGateway.Config.Url
import PgGateway.Executor.Basic
import PgGateway.Executor.Procedure
import PgGateway.Executor.Recording
import PgGateway.Failure
import PgGateway.Json.Basic
import PgGateway.Json.Document
import PgGateway.Json.Numeral
import PgGateway.Json.Token
import PgGateway.Json.Written
import PgGateway.Keyed
import PgGateway.Main
import PgGateway.Number.Binary64
import PgGateway.Number.Decimal
import PgGateway.Number.Shortest
import PgGateway.Postgres.Backend
import PgGateway.Postgres.Limit
import PgGateway.Postgres.Pool
import PgGateway.Postgres.Wire
import PgGateway.Result.Cell
import PgGateway.Result.ResultSet
import PgGateway.Rpc.Call
import PgGateway.Rpc.Handler
import PgGateway.Rpc.Handshake
import PgGateway.Rpc.Lifecycle
import PgGateway.Rpc.Line
import PgGateway.Rpc.Message
import PgGateway.Rpc.Session
import PgGateway.Sandbox.Alias
import PgGateway.Sandbox.Convention
import PgGateway.Sandbox.Group
import PgGateway.Sandbox.Help
import PgGateway.Sandbox.MethodName
import PgGateway.Sandbox.Path
import PgGateway.Sandbox.Surface
import PgGateway.Server.Handler
import PgGateway.Server.Program
import PgGateway.Server.State
import PgGateway.Shape.Mismatch
import PgGateway.Shape.Reader
import PgGateway.Shape.Record
import PgGateway.Shape.Span
import PgGateway.Sql.ColumnType
import PgGateway.Sql.Comment
import PgGateway.Sql.Condition
import PgGateway.Sql.Literal
import PgGateway.Sql.Name
import PgGateway.Sql.Path
import PgGateway.Sql.Statement
import PgGateway.Text.Blank
import PgGateway.Text.Bounds
import PgGateway.Text.Cut
import PgGateway.Text.Digits
import PgGateway.Text.Lower
import PgGateway.Text.Printable
import PgGateway.Text.Quoted
import PgGateway.Text.Word
import PgGateway.Time.Date
import PgGateway.Time.Instant
import PgGateway.Time.Span
import PgGateway.Tool.Basic
import PgGateway.Tool.Desk
import PgGateway.Tool.Echo
import PgGateway.Tool.Registry
import PgGateway.Tool.Schema
import PgGateway.Proofs.Catalog.Decoding
import PgGateway.Proofs.Catalog.Injection
import PgGateway.Proofs.Catalog.SingleCall
import PgGateway.Proofs.Catalog.WriteGate
import PgGateway.Proofs.Json.OneLine
import PgGateway.Proofs.Postgres.Columns
import PgGateway.Proofs.Postgres.Decoding
import PgGateway.Proofs.Postgres.Limit
import PgGateway.Proofs.Postgres.Rows
import PgGateway.Proofs.Postgres.Transaction
import PgGateway.Proofs.Rpc.AnswerLaw
import PgGateway.Proofs.Rpc.Delivery
import PgGateway.Proofs.Rpc.Progress
import PgGateway.Proofs.Sandbox.Reach
import PgGateway.Proofs.Server.Event
import PgGateway.Proofs.Server.Gate
import PgGateway.Proofs.Server.Handshake
import PgGateway.Proofs.Server.Idle
import PgGateway.Proofs.Server.Numbering
import PgGateway.Proofs.Server.Omission
import PgGateway.Proofs.Server.Surfaces
import PgGateway.Proofs.Server.Tables
import PgGateway.Proofs.Sql.Dialect
import PgGateway.Proofs.Sql.Leading
import PgGateway.Proofs.Sql.Lexing
import PgGateway.Proofs.Sql.Name
import PgGateway.Proofs.Text.Word
import PgGateway.Proofs.Sandbox.Callable
import PgGateway.Proofs.Sandbox.Complete
import PgGateway.Proofs.Sandbox.Spelling
import PgGateway.Proofs.Server.Disabled
import PgGateway.Proofs.Json.Numeral
import PgGateway.Proofs.Text.Digits
import PgGateway.Proofs.Json.Lexed
import PgGateway.Proofs.Json.Compact
import PgGateway.Proofs.Json.RoundTrip
import PgGateway.Proofs.Rpc.Wire
import PgGateway.Proofs.Number.Rounding
import PgGateway.Proofs.Number.Exact
import PgGateway.Proofs.Json.ShortFloat
import PgGateway.Proofs.Sandbox.Options
import PgGateway.Proofs.Sandbox.Order
import PgGateway.Proofs.Sandbox.Lenient
import PgGateway.Proofs.Sandbox.HelpPath
import PgGateway.Proofs.Sql.Passage
import PgGateway.Proofs.Sql.Position
import PgGateway.Proofs.Catalog.Fragment
import PgGateway.Proofs.Catalog.Terminator
import PgGateway.Proofs.Postgres.Answered
import PgGateway.Proofs.Catalog.Transaction
import PgGateway.Proofs.Config.Url
import PgGateway.Proofs.Config.QueryString
import PgGateway.Proofs.Config.Environment
import PgGateway.Proofs.Sql.Array
import PgGateway.Proofs.Sql.Path
import PgGateway.Proofs.Sql.Identifier
import PgGateway.Proofs.Tool.Registry
import PgGateway.Proofs.Sandbox.MethodName
import PgGateway.Proofs.Catalog.IndexName
import PgGateway.Proofs.Text.Nesting
import PgGateway.Proofs.Sql.ColumnType
import PgGateway.Proofs.Catalog.ColumnList
import PgGateway.Proofs.Number.DecimalText
import PgGateway.Proofs.Result.Cell
import PgGateway.Proofs.Result.ResultSet
import PgGateway.Proofs.Text.Pattern
import PgGateway.Proofs.Sql.Stripping
