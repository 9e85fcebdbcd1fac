import Transact.Bytes
import Transact.OrderedMap
import Transact.Text.Utf8
import Transact.Text.Blank
import Transact.Text.Word
import Transact.Text.Quoted
import Transact.Numeric.Binary
import Transact.Numeric.Shortest
import Transact.Numeric.Decimal
import Transact.Calendar.Reader
import Transact.Json.Basic
import Transact.Json.Document
import Transact.Json.Reader
import Transact.Json.Printer
import Transact.Value.ElementType
import Transact.Value.Scalar
import Transact.Value.Basic
import Transact.Value.Shape
import Transact.Value.Native
import Transact.Statement.ParamKey
import Transact.Session.Lifecycle
import Transact.Error
import Transact.Value.Codec
import Transact.Value.Target
import Transact.Statement.Scanner
import Transact.Statement.Basic
import Transact.Interaction
import Transact.ByteReader
import Transact.OrderedKey.Field
import Transact.OrderedKey.Item
import Transact.OrderedKey.Schema
import Transact.Call
import Transact.Storage.Store
import Transact.Mvcc.Layout
import Transact.Mvcc.Transaction
import Transact.Mvcc.Run
import Transact.Record.Field
import Transact.Record.Row
import Transact.Table.Key
import Transact.Table.Basic
import Transact.Query.ResultSet
import Transact.Query.Rows
import Transact.Session.Context
import Transact.Session.RetryPolicy
import Transact.Session.Config
import Transact.Table.Handler
import Transact.Executor.Basic
import Transact.Executor.Memory
import Transact.Executor.Scripted
import Transact.Session.Transaction
import Transact.Session.Batch
import Transact.Session.World
import Transact.Session.Retry
import Transact.Table.Plan
import Transact.Text.Hex
import Transact.Storage.Step
import Transact.Scenario.Step
import Transact.Scenario.Play
import Transact.Proofs.OrderedKey.Order
import Transact.Proofs.Storage.PrefixScan
import Transact.Proofs.Mvcc.Layout
import Transact.Proofs.Mvcc.Chain
import Transact.Proofs.Mvcc.Agreement
import Transact.Proofs.Mvcc.Validation
import Transact.Proofs.Mvcc.Effect
import Transact.Proofs.Mvcc.Commit
import Transact.Proofs.Mvcc.History
import Transact.Proofs.Mvcc.Invariant
import Transact.Proofs.Mvcc.Reachable
import Transact.Proofs.Mvcc.Representation
import Transact.Proofs.Mvcc.Snapshot
import Transact.Proofs.Mvcc.Outcome
import Transact.Proofs.Mvcc.Serial
import Transact.Proofs.Mvcc.Serializability
import Transact.Proofs.Mvcc.Recorded
import Transact.Proofs.OrderedKey.Typing
import Transact.Proofs.OrderedKey.Compare
import Transact.Proofs.Text.Utf8
import Transact.Proofs.OrderedKey.Reader
import Transact.Proofs.OrderedKey.RoundTrip
import Transact.Proofs.OrderedKey.Canonical
import Transact.Proofs.Value.RoundTrip
import Transact.Proofs.Interaction
import Transact.Proofs.Table.Writes
import Transact.Proofs.Mvcc.Versions
import Transact.Proofs.Executor.Memory
import Transact.Proofs.Session.Transaction
import Transact.Proofs.Session.Effect
import Transact.Proofs.Session.History
import Transact.Proofs.Session.Numbering
import Transact.Proofs.Session.Committed
import Transact.Proofs.Session.Markers
import Transact.Proofs.Session.Lifecycle
import Transact.Proofs.Session.Spent
import Transact.Proofs.Session.Retry
import Transact.Proofs.Statement.Grammar
import Transact.Proofs.Statement.Scanner
import Transact.Proofs.Text.Digits
import Transact.Proofs.Numeric.Decimal
import Transact.Proofs.Calendar.Days
import Transact.Proofs.Calendar.Reader
import Transact.Proofs.Calendar.Timestamp
import Transact.Proofs.Record.Field
import Transact.Proofs.Record.Row
import Transact.Proofs.Table.Key
import Transact.Proofs.Table.Contents
import Transact.Proofs.Table.Moves
import Transact.Proofs.Table.Map
import Transact.Proofs.Executor.Batch
import Transact.Proofs.Value.Decode
import Transact.Proofs.Value.Target
import Transact.Proofs.Numeric.Equality
import Transact.Proofs.Value.Equality
import Transact.Proofs.Record.Equality
import Transact.Proofs.Table.EqualKeys
import Transact.Proofs.Mvcc.Begin
import Transact.Proofs.Text.Order
import Transact.Proofs.Statement.Builder
import Transact.Proofs.Session.Active
import Transact.Proofs.Session.Cancelled
import Transact.Proofs.Session.BatchLife
import Transact.Proofs.Value.Inference
import Transact.Proofs.Mvcc.PrefixLayout
import Transact.Proofs.Mvcc.Newest
