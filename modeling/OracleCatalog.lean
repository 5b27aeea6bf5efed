import OracleCatalog.Binary64.Shortest
import OracleCatalog.Binary64.Printer
import OracleCatalog.Binary64.Reader
import OracleCatalog.Cache.Access
import OracleCatalog.Cache.Basic
import OracleCatalog.Call
import OracleCatalog.Catalog.Aliases
import OracleCatalog.Catalog.Query
import OracleCatalog.Catalog.Routines
import OracleCatalog.Catalog.Session
import OracleCatalog.Catalog.Tables
import OracleCatalog.Conversion
import OracleCatalog.DataType.Abstract
import OracleCatalog.DataType.Catalog
import OracleCatalog.DataType.Declaration
import OracleCatalog.Decimal.Basic
import OracleCatalog.Decimal.Numeral
import OracleCatalog.Decimal.Sum
import OracleCatalog.Definition.Column
import OracleCatalog.Definition.Key
import OracleCatalog.Definition.Sequence
import OracleCatalog.Definition.Table
import OracleCatalog.Dialect
import OracleCatalog.Engine
import OracleCatalog.Error
import OracleCatalog.Journal
import OracleCatalog.Literal
import OracleCatalog.Name
import OracleCatalog.OrderedMap
import OracleCatalog.Query.Basic
import OracleCatalog.Query.Listing
import OracleCatalog.Query.Owner
import OracleCatalog.Query.Table
import OracleCatalog.Routine.Basic
import OracleCatalog.Routine.Document
import OracleCatalog.Row.Basic
import OracleCatalog.Row.Change
import OracleCatalog.Row.Parameter
import OracleCatalog.Row.Table
import OracleCatalog.Select
import OracleCatalog.Session.Action
import OracleCatalog.Session.Connection
import OracleCatalog.Session.Driver
import OracleCatalog.Session.Environment
import OracleCatalog.Session.Lob
import OracleCatalog.Settings.Basic
import OracleCatalog.Settings.Reader
import OracleCatalog.Settings.Source
import OracleCatalog.Settings.Variable
import OracleCatalog.Statement.Binding
import OracleCatalog.Statement.Buffered
import OracleCatalog.Statement.Cursor
import OracleCatalog.Statement.LogEntry
import OracleCatalog.Statement.Logged
import OracleCatalog.Statement.Placeholder
import OracleCatalog.Statement.Plain
import OracleCatalog.Statement.Prepared
import OracleCatalog.Statement.Request
import OracleCatalog.Table.Basic
import OracleCatalog.Table.Builder
import OracleCatalog.Table.Document
import OracleCatalog.Text.Base64
import OracleCatalog.Text.Character
import OracleCatalog.Text.Case
import OracleCatalog.Text.CaseTable
import OracleCatalog.Text.Numeral
import OracleCatalog.Text.Printable
import OracleCatalog.Text.Quoted
import OracleCatalog.Text.Split
import OracleCatalog.Toml.Number
import OracleCatalog.Toml.Reader
import OracleCatalog.Toml.Tables
import OracleCatalog.Toml.Text
import OracleCatalog.Value.Basic
import OracleCatalog.Value.Members
import OracleCatalog.Value.Printer
import OracleCatalog.Value.Whole
import OracleCatalog.Yaml.BlockScalar
import OracleCatalog.Yaml.Content
import OracleCatalog.Yaml.Failure
import OracleCatalog.Yaml.Node
import OracleCatalog.Yaml.Place
import OracleCatalog.Yaml.Plain
import OracleCatalog.Yaml.Printer
import OracleCatalog.Yaml.Quoted
import OracleCatalog.Yaml.Reader
import OracleCatalog.Yaml.Scalar
import OracleCatalog.Yaml.Style
import OracleCatalog.Yaml.Tag
import OracleCatalog.Yaml.Timestamp
import OracleCatalog.Yaml.Token
import OracleCatalog.Proofs.Name
import OracleCatalog.Proofs.Session.Perform
import OracleCatalog.Proofs.Success
import OracleCatalog.Proofs.Table.Merging
import OracleCatalog.Proofs.Table.ForeignKeys
import OracleCatalog.Proofs.Session.Agreement
import OracleCatalog.Proofs.Catalog.Routines
import OracleCatalog.Proofs.Routine.Document
import OracleCatalog.Proofs.Catalog.Cached
import OracleCatalog.Proofs.Statement.Placeholder
import OracleCatalog.Proofs.Statement.Bindings
import OracleCatalog.Proofs.Statement.Log
import OracleCatalog.Proofs.Session.Lob
import OracleCatalog.Proofs.Statement.Reader
import OracleCatalog.Proofs.Statement.Buffered
import OracleCatalog.Proofs.Statement.Cut
import OracleCatalog.Proofs.Statement.Interpolation
import OracleCatalog.Proofs.Session.Invariant
import OracleCatalog.Proofs.Statement.Tracking
import OracleCatalog.Proofs.Statement.Mirror
import OracleCatalog.Proofs.Statement.NamedLog
import OracleCatalog.Proofs.Query.Placeholders
import OracleCatalog.Proofs.Query.Shape
import OracleCatalog.Proofs.Statement.Pulling
import OracleCatalog.Proofs.Statement.Wrapping
import OracleCatalog.Proofs.Statement.Sending
import OracleCatalog.Proofs.Statement.Asking
import OracleCatalog.Proofs.Statement.Closing
import OracleCatalog.Proofs.Session.Cursors
import OracleCatalog.Proofs.Catalog.Cursors
import OracleCatalog.Proofs.Text.Capitals
import OracleCatalog.Proofs.Query.Comparisons
import OracleCatalog.Proofs.Query.LetterCase
import OracleCatalog.Proofs.Table.Rows
import OracleCatalog.Proofs.Table.Groups
import OracleCatalog.Proofs.Table.PrimaryKey
import OracleCatalog.Proofs.Table.Folding
import OracleCatalog.Proofs.Definition.Typed
import OracleCatalog.Proofs.Definition.Column
import OracleCatalog.Proofs.Definition.Key
import OracleCatalog.Proofs.Definition.Creation
import OracleCatalog.Proofs.Table.Columns
import OracleCatalog.Proofs.Definition.Default
import OracleCatalog.Proofs.Definition.KeyGeneration
import OracleCatalog.Proofs.Definition.Statements
import OracleCatalog.Proofs.Routine.Arguments
import OracleCatalog.Proofs.Routine.Call
import OracleCatalog.Proofs.Session.Runs
import OracleCatalog.Proofs.Session.Stores
import OracleCatalog.Proofs.Catalog.Asking
import OracleCatalog.Proofs.Cache.Access
import OracleCatalog.Proofs.Cache.Faithful
import OracleCatalog.Proofs.Cache.Keys
import OracleCatalog.Proofs.Catalog.Entries
import OracleCatalog.Proofs.Catalog.Refreshed
import OracleCatalog.Proofs.Catalog.Aliases
import OracleCatalog.Proofs.Catalog.Collections
import OracleCatalog.Proofs.Settings.Spelling
import OracleCatalog.Proofs.Settings.Loading
import OracleCatalog.Proofs.Refusal
import OracleCatalog.Proofs.Toml.Tables
import OracleCatalog.Proofs.Settings.Connections
import OracleCatalog.Proofs.Settings.Precedence
import OracleCatalog.Proofs.Settings.Refusal
import OracleCatalog.Proofs.Session.Links
import OracleCatalog.Proofs.Statement.Transparent
import OracleCatalog.Proofs.Statement.Lost
import OracleCatalog.Proofs.Routine.Description
import OracleCatalog.Proofs.Text.Numeral
import OracleCatalog.Proofs.DataType.Mapped
import OracleCatalog.Proofs.DataType.Declared
import OracleCatalog.Proofs.Definition.Identity
import OracleCatalog.Proofs.Routine.Placeholders
import OracleCatalog.Proofs.Table.Described
import OracleCatalog.Proofs.Statement.Placing
import OracleCatalog.Proofs.Statement.FailedBinding
import OracleCatalog.Proofs.Statement.Positions
import OracleCatalog.Proofs.Statement.Appending
import OracleCatalog.Proofs.Statement.Reexecution
import OracleCatalog.Proofs.Statement.Shapes
import OracleCatalog.Proofs.Statement.LobReads
import OracleCatalog.Proofs.Statement.ReadOnce
import OracleCatalog.Proofs.Text.Segments
import OracleCatalog.Proofs.Select
import OracleCatalog.Proofs.Row.Change
import OracleCatalog.Proofs.Value.Sameness
import OracleCatalog.Proofs.Settings.Kept
import OracleCatalog.Proofs.Literal
import OracleCatalog.Proofs.Definition.Blocks
import OracleCatalog.Proofs.Definition.Qualifier
import OracleCatalog.Proofs.Value.Coercion
import OracleCatalog.Proofs.Identifier
import OracleCatalog.Proofs.Cache.Paths
import OracleCatalog.Proofs.Cache.Confined
import OracleCatalog.Proofs.Routine.Name
import OracleCatalog.Proofs.Value.Keys
import OracleCatalog.Proofs.Definition.Lookup
import OracleCatalog.Proofs.Table.Stored
