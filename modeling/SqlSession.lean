import SqlSession.Text.Blank
import SqlSession.Text.Case
import SqlSession.Text.Quoted
import SqlSession.Text.Utf8
import SqlSession.Decimal.Style
import SqlSession.Duration
import SqlSession.Timestamp
import SqlSession.Json.Printer
import SqlSession.Json.Reader
import SqlSession.Statement
import SqlSession.Error
import SqlSession.Config.Reader
import SqlSession.Query.Marker
import SqlSession.Query.Builder
import SqlSession.Session.Operation
import SqlSession.Pool.Clock
import SqlSession.Proofs.Text.Words
import SqlSession.Proofs.Query.Command
import SqlSession.Proofs.Query.Layout
import SqlSession.Proofs.Query.Alignment
import SqlSession.Proofs.Session.Ends
import SqlSession.Proofs.Session.Calls
import SqlSession.Proofs.Session.Traffic
import SqlSession.Proofs.Session.Requests
import SqlSession.Proofs.Query.Unforced
import SqlSession.Proofs.Session.Changes
import SqlSession.Proofs.Session.Control
import SqlSession.Proofs.Session.Transaction
import SqlSession.Proofs.Session.Program
import SqlSession.Proofs.Session.Commitment
import SqlSession.Proofs.Session.Database
import SqlSession.Proofs.Session.Frames
import SqlSession.Proofs.Session.Calm
import SqlSession.Proofs.Session.Nesting
import SqlSession.Proofs.Scan.Filling
import SqlSession.Proofs.Session.Acts
import SqlSession.Proofs.Session.Rules
import SqlSession.Proofs.Session.Ways
import SqlSession.Proofs.Session.Events
import SqlSession.Proofs.Session.Passages
import SqlSession.Proofs.Session.Handles
import SqlSession.Proofs.Session.Reports
import SqlSession.Proofs.Session.Loss
import SqlSession.Proofs.Session.Replacement
import SqlSession.Proofs.Session.Leftover
import SqlSession.Proofs.Query.Families
import SqlSession.Proofs.Session.Keeping
import SqlSession.Proofs.Session.Endings
import SqlSession.Proofs.Session.Isolation
import SqlSession.Proofs.Session.Pairs
import SqlSession.Proofs.Session.Mirrors
import SqlSession.Proofs.Session.Matching
import SqlSession.Proofs.Session.Succession
import SqlSession.Proofs.Pool.Leases
import SqlSession.Proofs.Query.Upkeep
import SqlSession.Proofs.Query.JoinConditions
import SqlSession.Proofs.Session.Attempts
import SqlSession.Proofs.Session.Depths
import SqlSession.Proofs.Session.Batches
import SqlSession.Proofs.Scan.Literals
import SqlSession.Proofs.Query.CustomOrder
import SqlSession.Proofs.Query.Validity
import SqlSession.Proofs.Query.Unset
import SqlSession.Proofs.Scan.Standing
import SqlSession.Proofs.Query.InEffect
import SqlSession.Proofs.Query.Shifts
import SqlSession.Proofs.Query.TablePrefix
import SqlSession.Proofs.Text.Occurrence
import SqlSession.Proofs.Query.JoinForms
import SqlSession.Proofs.Query.Labels
import SqlSession.Proofs.Session.Diagnostics
import SqlSession.Proofs.Session.Limits
import SqlSession.Proofs.Session.Lookup
import SqlSession.Proofs.Query.WholeNumbers
import SqlSession.Proofs.Scan.Walks
import SqlSession.Proofs.Scan.Delimited
import SqlSession.Proofs.Session.TableNames
import SqlSession.Proofs.Pool.Waits
import SqlSession.Proofs.Pool.Overlong
