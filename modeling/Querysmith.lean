import Querysmith.Blueprint.Basic
import Querysmith.Blueprint.Call
import Querysmith.Blueprint.Nullability
import Querysmith.Blueprint.Writing
import Querysmith.Builder.Basic
import Querysmith.Builder.Compile
import Querysmith.Builder.Step
import Querysmith.Builder.Writing
import Querysmith.Call.Asking
import Querysmith.Call.Building
import Querysmith.Call.Defining
import Querysmith.Call.Inquiring
import Querysmith.Call.Registering
import Querysmith.Call.Signature
import Querysmith.Connection.Access
import Querysmith.Connection.Connector
import Querysmith.Connection.Context
import Querysmith.Connection.Event
import Querysmith.Connection.Fields
import Querysmith.Connection.Handle
import Querysmith.Connection.Link
import Querysmith.Connection.Request
import Querysmith.Database.Query
import Querysmith.Database.Registry
import Querysmith.Database.Schema
import Querysmith.Database.Scope
import Querysmith.Database.Terminal
import Querysmith.Database.Transaction
import Querysmith.Database.Update
import Querysmith.Error
import Querysmith.Number.Binary64
import Querysmith.Number.Decimal
import Querysmith.Number.Reading
import Querysmith.Number.Scaled
import Querysmith.Number.Shortest
import Querysmith.Profile.Book
import Querysmith.Profile.Environment
import Querysmith.Profile.FileTree
import Querysmith.Profile.Path
import Querysmith.Profile.Toml
import Querysmith.Profile.Toml.Fault
import Querysmith.Profile.Toml.Literal
import Querysmith.Profile.Toml.Moment
import Querysmith.Profile.Toml.Numeral
import Querysmith.Profile.Toml.Quoted
import Querysmith.Profile.Toml.Tables
import Querysmith.Proofs.Call.Binding
import Querysmith.Proofs.Clause.Collecting
import Querysmith.Proofs.Clause.Grammar
import Querysmith.Proofs.Clause.Reading
import Querysmith.Proofs.Column.Cleaned
import Querysmith.Proofs.Column.Figures
import Querysmith.Proofs.Column.Harmless
import Querysmith.Proofs.Column.Literals
import Querysmith.Proofs.Column.Numerals
import Querysmith.Proofs.Column.Pieces
import Querysmith.Proofs.Column.Resplitting
import Querysmith.Proofs.Column.Restripping
import Querysmith.Proofs.Column.Scanning
import Querysmith.Proofs.Column.Separators
import Querysmith.Proofs.Column.Shedding
import Querysmith.Proofs.Column.Tail
import Querysmith.Proofs.Column.Words
import Querysmith.Proofs.Connection.KeyPair
import Querysmith.Proofs.Connection.Password
import Querysmith.Proofs.Connection.Settings
import Querysmith.Proofs.Entries
import Querysmith.Proofs.Keeping
import Querysmith.Proofs.Outcome
import Querysmith.Proofs.Profile.Listing
import Querysmith.Proofs.Profile.Registered
import Querysmith.Proofs.Profile.Tables
import Querysmith.Proofs.Session.Access
import Querysmith.Proofs.Session.Alternation
import Querysmith.Proofs.Session.Apart
import Querysmith.Proofs.Session.Building
import Querysmith.Proofs.Session.Callback
import Querysmith.Proofs.Session.Change
import Querysmith.Proofs.Session.Commands
import Querysmith.Proofs.Session.Cursors
import Querysmith.Proofs.Session.Fields
import Querysmith.Proofs.Session.Owning
import Querysmith.Proofs.Session.Placing
import Querysmith.Proofs.Session.Quiet
import Querysmith.Proofs.Session.Routes
import Querysmith.Proofs.Session.Routing
import Querysmith.Proofs.Session.Sending
import Querysmith.Proofs.Session.Statements
import Querysmith.Proofs.Session.Terms
import Querysmith.Proofs.Session.Unbuilt
import Querysmith.Proofs.Statement.Assigned
import Querysmith.Proofs.Statement.Calls
import Querysmith.Proofs.Statement.Changes
import Querysmith.Proofs.Statement.Compiled
import Querysmith.Proofs.Statement.Failing
import Querysmith.Proofs.Statement.Families
import Querysmith.Proofs.Statement.Inlining
import Querysmith.Proofs.Statement.Opening
import Querysmith.Proofs.Statement.Pending
import Querysmith.Proofs.Statement.Retargeting
import Querysmith.Proofs.Statement.Rows
import Querysmith.Proofs.Statement.Runs
import Querysmith.Proofs.Table.Defaults
import Querysmith.Proofs.Table.Definitions
import Querysmith.Proofs.Table.Helpers
import Querysmith.Proofs.Table.Lexing
import Querysmith.Proofs.Table.Nullness
import Querysmith.Proofs.Table.Performing
import Querysmith.Proofs.Table.Plan
import Querysmith.Proofs.Table.Requests
import Querysmith.Proofs.Table.Untouched
import Querysmith.Proofs.Transaction.Basic
import Querysmith.Proofs.Transaction.Contract
import Querysmith.Proofs.Transaction.Correspondence
import Querysmith.Proofs.Transaction.Failure
import Querysmith.Proofs.Transaction.Holding
import Querysmith.Proofs.Transaction.Ledger
import Querysmith.Proofs.Transaction.Registry
import Querysmith.Proofs.Transaction.Settled
import Querysmith.Proofs.Transaction.Standing
import Querysmith.Proofs.Transaction.Verdict
import Querysmith.Query.CaseExpression
import Querysmith.Query.Condition
import Querysmith.Query.Draft
import Querysmith.Query.Fragment
import Querysmith.Query.Join
import Querysmith.Reply
import Querysmith.Session.Basic
import Querysmith.Session.Command
import Querysmith.Session.Driver
import Querysmith.Session.Naming
import Querysmith.Text.Blank
import Querysmith.Text.CodeRanges
import Querysmith.Text.Digit
import Querysmith.Text.Joined
import Querysmith.Text.LetterCase
import Querysmith.Text.Literal
import Querysmith.Text.Numeral
import Querysmith.Text.Prefix
import Querysmith.Text.Printable
import Querysmith.Text.Quoted
import Querysmith.Text.Shown
import Querysmith.Text.Word
import Querysmith.Value.Basic
import Querysmith.Value.Integer
import Querysmith.Value.Items
import Querysmith.Value.Key
import Querysmith.Value.Moment
import Querysmith.Value.Text
