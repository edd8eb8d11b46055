import Tenancy.Address
import Tenancy.Address.Record
import Tenancy.Broker
import Tenancy.Calendar
import Tenancy.Cell
import Tenancy.Certificate
import Tenancy.Command
import Tenancy.Command.Line
import Tenancy.Configuration
import Tenancy.Connection
import Tenancy.Connection.Request
import Tenancy.Descriptor
import Tenancy.Failure
import Tenancy.Files
import Tenancy.Json.Number
import Tenancy.Json.Reader
import Tenancy.Json.Value
import Tenancy.Json.Writer
import Tenancy.Lease
import Tenancy.Main
import Tenancy.Number.Binary64
import Tenancy.Number.Shortest
import Tenancy.Ownership
import Tenancy.Pool
import Tenancy.Prefix
import Tenancy.Procedure
import Tenancy.Proofs.Cell.Calendar
import Tenancy.Proofs.Cell.Display
import Tenancy.Proofs.Cell.Rows
import Tenancy.Proofs.Cell.Values
import Tenancy.Proofs.Connection.Adapt
import Tenancy.Proofs.Connection.Cursors
import Tenancy.Proofs.Connection.Ends
import Tenancy.Proofs.Connection.Fetching
import Tenancy.Proofs.Connection.Granted
import Tenancy.Proofs.Connection.Outcome
import Tenancy.Proofs.Connection.Requests
import Tenancy.Proofs.Connection.Sparing
import Tenancy.Proofs.Connection.Talk
import Tenancy.Proofs.Descriptor.Acceptance
import Tenancy.Proofs.Descriptor.Forms
import Tenancy.Proofs.Descriptor.Overlay
import Tenancy.Proofs.Expression.Computation
import Tenancy.Proofs.Expression.Derived
import Tenancy.Proofs.Expression.Document
import Tenancy.Proofs.Expression.Meaning
import Tenancy.Proofs.Expression.Reading
import Tenancy.Proofs.Failure.Place
import Tenancy.Proofs.Files.Writing
import Tenancy.Proofs.Json.Scalars
import Tenancy.Proofs.Lease.Question
import Tenancy.Proofs.Lease.Renaming
import Tenancy.Proofs.Lease.Resolution
import Tenancy.Proofs.Lease.Standing
import Tenancy.Proofs.Ownership.Lists
import Tenancy.Proofs.Ownership.Objects
import Tenancy.Proofs.Path.Grammar
import Tenancy.Proofs.Path.Literal
import Tenancy.Proofs.Pool.Checkout
import Tenancy.Proofs.Pool.Custody
import Tenancy.Proofs.Pool.Lending
import Tenancy.Proofs.Pool.Sharing
import Tenancy.Proofs.Pool.Stock
import Tenancy.Proofs.Registry.Assigning
import Tenancy.Proofs.Registry.Bindings
import Tenancy.Proofs.Registry.Document
import Tenancy.Proofs.Registry.Keeping
import Tenancy.Proofs.Registry.Prefixes
import Tenancy.Proofs.Registry.Refusal
import Tenancy.Proofs.Registry.Rivals
import Tenancy.Proofs.Schema.Asking
import Tenancy.Proofs.Schema.Atomicity
import Tenancy.Proofs.Schema.Catalogue
import Tenancy.Proofs.Schema.Composition
import Tenancy.Proofs.Schema.Convergence
import Tenancy.Proofs.Schema.Course
import Tenancy.Proofs.Schema.DatabaseLedger
import Tenancy.Proofs.Schema.Decision
import Tenancy.Proofs.Schema.Definitions
import Tenancy.Proofs.Schema.Derivation
import Tenancy.Proofs.Schema.Footing
import Tenancy.Proofs.Schema.Granting
import Tenancy.Proofs.Schema.Harmless
import Tenancy.Proofs.Schema.History
import Tenancy.Proofs.Schema.Idempotence
import Tenancy.Proofs.Schema.Isolation
import Tenancy.Proofs.Schema.Ledger
import Tenancy.Proofs.Schema.LockOrder
import Tenancy.Proofs.Schema.Naming
import Tenancy.Proofs.Schema.ObjectNames
import Tenancy.Proofs.Schema.Owners
import Tenancy.Proofs.Schema.Passage
import Tenancy.Proofs.Schema.Passing
import Tenancy.Proofs.Schema.Recording
import Tenancy.Proofs.Schema.Savepoints
import Tenancy.Proofs.Schema.Scope
import Tenancy.Proofs.Schema.Settlement
import Tenancy.Proofs.Schema.Sight
import Tenancy.Proofs.Schema.Statements
import Tenancy.Proofs.Schema.Succession
import Tenancy.Proofs.Schema.Tables
import Tenancy.Proofs.Schema.Transaction
import Tenancy.Proofs.Schema.Upkeep
import Tenancy.Proofs.Schema.Version
import Tenancy.Proofs.Schema.VersionCourse
import Tenancy.Proofs.Schema.VersionStore
import Tenancy.Proofs.Schema.Vocabulary
import Tenancy.Proofs.Schema.Wording
import Tenancy.Proofs.Server.Compliance
import Tenancy.Proofs.Server.Engine
import Tenancy.Proofs.Server.Interleaving
import Tenancy.Proofs.Server.Reading
import Tenancy.Proofs.Server.Reliance
import Tenancy.Proofs.Server.Sessions
import Tenancy.Proofs.Server.Since
import Tenancy.Proofs.Server.Watch
import Tenancy.Proofs.Sql.Body
import Tenancy.Proofs.Sql.Bytes
import Tenancy.Proofs.Sql.Column
import Tenancy.Proofs.Sql.Cut
import Tenancy.Proofs.Sql.Edit
import Tenancy.Proofs.Sql.Extent
import Tenancy.Proofs.Sql.Finding
import Tenancy.Proofs.Sql.Gap
import Tenancy.Proofs.Sql.Head
import Tenancy.Proofs.Sql.Lexeme
import Tenancy.Proofs.Sql.Limits
import Tenancy.Proofs.Sql.Locality
import Tenancy.Proofs.Sql.Marking
import Tenancy.Proofs.Sql.Matching
import Tenancy.Proofs.Sql.Mention
import Tenancy.Proofs.Sql.Mild
import Tenancy.Proofs.Sql.Numbering
import Tenancy.Proofs.Sql.Ordinary
import Tenancy.Proofs.Sql.Pagination
import Tenancy.Proofs.Sql.Passes
import Tenancy.Proofs.Sql.Pattern
import Tenancy.Proofs.Sql.Quotation
import Tenancy.Proofs.Sql.Splitting
import Tenancy.Proofs.Sql.Token
import Tenancy.Proofs.Text.Ascii
import Tenancy.Proofs.Text.Folding
import Tenancy.Proofs.Text.Lowering
import Tenancy.Proofs.Text.Numerals
import Tenancy.Proofs.Text.Parts
import Tenancy.Proofs.Text.Utf8
import Tenancy.Proofs.Text.Words
import Tenancy.Proofs.Toml.Strings
import Tenancy.Registry
import Tenancy.Registry.File
import Tenancy.Schema.Definition
import Tenancy.Schema.Derivation
import Tenancy.Schema.Inventory
import Tenancy.Schema.Path
import Tenancy.Schema.Scope
import Tenancy.Schema.Setting
import Tenancy.Schema.Table
import Tenancy.Schema.Upkeep
import Tenancy.Server
import Tenancy.Server.Scripted
import Tenancy.Server.Unreachable
import Tenancy.Server.Wire
import Tenancy.Sql.Identifier
import Tenancy.Sql.Lexeme
import Tenancy.Sql.Parameter
import Tenancy.Sql.Rule
import Tenancy.Text.Case
import Tenancy.Text.CaseTable
import Tenancy.Text.Compose
import Tenancy.Text.Intervals
import Tenancy.Text.MarkTable
import Tenancy.Text.Numeral
import Tenancy.Text.PrintTable
import Tenancy.Text.Quoted
import Tenancy.Text.Utf8
import Tenancy.Text.Word
import Tenancy.Text.WordTable
import Tenancy.Toml.Reader
import Tenancy.Toml.Scalar
import Tenancy.Toml.Text
import Tenancy.Toml.Value
import Tenancy.Toml.Writer
import Tenancy.Url.Basic
import Tenancy.Url.Domain
import Tenancy.Url.Domain.Direction
import Tenancy.Url.Domain.DirectionTable
import Tenancy.Url.Domain.Fold
import Tenancy.Url.Domain.FoldTable
import Tenancy.Url.Domain.Joining
import Tenancy.Url.Domain.JoiningTable
import Tenancy.Url.Domain.Punycode
import Tenancy.Url.Host
import Tenancy.Url.Ip
import Tenancy.Url.Path
import Tenancy.Url.Percent
import Tenancy.World
