import LeaseQueue.Admin.Arguments
import LeaseQueue.Admin.Command
import LeaseQueue.Admin.Grid
import LeaseQueue.Admin.Help
import LeaseQueue.Admin.Run
import LeaseQueue.Admin.Time
import LeaseQueue.Admin.View
import LeaseQueue.Broker.Audit
import LeaseQueue.Broker.Config
import LeaseQueue.Broker.Handler
import LeaseQueue.Broker.Metrics
import LeaseQueue.Broker.Service
import LeaseQueue.Broker.Settings
import LeaseQueue.Client.Call
import LeaseQueue.Client.Dispatcher
import LeaseQueue.Client.Envelope
import LeaseQueue.Client.Error
import LeaseQueue.Json.Basic
import LeaseQueue.Json.Reader
import LeaseQueue.Json.Writer
import LeaseQueue.Keyspace.Basic
import LeaseQueue.Keyspace.Batch
import LeaseQueue.Keyspace.Describe
import LeaseQueue.Keyspace.Layout
import LeaseQueue.Keyspace.Schedule
import LeaseQueue.Keyspace.ScoredSet
import LeaseQueue.Keyspace.Stage
import LeaseQueue.Keyspace.Store
import LeaseQueue.Main
import LeaseQueue.Number.Binary64
import LeaseQueue.Number.Decimal
import LeaseQueue.Number.Extended
import LeaseQueue.Number.Scientific
import LeaseQueue.Number.Shortest
import LeaseQueue.Proofs.AuditTable
import LeaseQueue.Proofs.Client.Dispatch
import LeaseQueue.Proofs.Client.Envelope
import LeaseQueue.Proofs.Client.Exchange
import LeaseQueue.Proofs.Client.Remote
import LeaseQueue.Proofs.Clients.Exclusive
import LeaseQueue.Proofs.Clients.History
import LeaseQueue.Proofs.Clients.Invariant
import LeaseQueue.Proofs.Clients.Leases
import LeaseQueue.Proofs.Clients.Queue
import LeaseQueue.Proofs.Clients.Served
import LeaseQueue.Proofs.Clients.Stages
import LeaseQueue.Proofs.Clients.System
import LeaseQueue.Proofs.Clients.Transition
import LeaseQueue.Proofs.Clients.Updates
import LeaseQueue.Proofs.Clients.Waiting
import LeaseQueue.Proofs.Damage.Dequeue
import LeaseQueue.Proofs.Damage.Keyspace
import LeaseQueue.Proofs.Damage.Table
import LeaseQueue.Proofs.Json.Texts
import LeaseQueue.Proofs.Json.Values
import LeaseQueue.Proofs.Keyspace.Cost
import LeaseQueue.Proofs.Keyspace.Faults
import LeaseQueue.Proofs.Keyspace.Indexes
import LeaseQueue.Proofs.Keyspace.Namespaces
import LeaseQueue.Proofs.Keyspace.Progress
import LeaseQueue.Proofs.Keyspace.Refusing
import LeaseQueue.Proofs.Keyspace.ScoreMap
import LeaseQueue.Proofs.Keyspace.SharedCalls
import LeaseQueue.Proofs.Keyspace.Tasks
import LeaseQueue.Proofs.Keyspace.View
import LeaseQueue.Proofs.Ledger.Agreement
import LeaseQueue.Proofs.Ledger.Basic
import LeaseQueue.Proofs.Ledger.Changes
import LeaseQueue.Proofs.Ledger.Consistency
import LeaseQueue.Proofs.Ledger.Contention
import LeaseQueue.Proofs.Ledger.Faults
import LeaseQueue.Proofs.Ledger.Keyspace
import LeaseQueue.Proofs.Ledger.May
import LeaseQueue.Proofs.Ledger.SharedStores
import LeaseQueue.Proofs.Ledger.Table
import LeaseQueue.Proofs.Ledger.Weight
import LeaseQueue.Proofs.Record.Hash
import LeaseQueue.Proofs.Record.ReadBack
import LeaseQueue.Proofs.Record.Reading
import LeaseQueue.Proofs.Record.Row
import LeaseQueue.Proofs.ScoredSet
import LeaseQueue.Proofs.Server.Atomic
import LeaseQueue.Proofs.Server.Sessions
import LeaseQueue.Proofs.Service.Answers
import LeaseQueue.Proofs.Service.Audit
import LeaseQueue.Proofs.Service.Balance
import LeaseQueue.Proofs.Service.Calls
import LeaseQueue.Proofs.Service.Clean
import LeaseQueue.Proofs.Service.Connections
import LeaseQueue.Proofs.Service.Contention
import LeaseQueue.Proofs.Service.Counters
import LeaseQueue.Proofs.Service.Dequeue
import LeaseQueue.Proofs.Service.Entries
import LeaseQueue.Proofs.Service.Failures
import LeaseQueue.Proofs.Service.History
import LeaseQueue.Proofs.Service.Leases
import LeaseQueue.Proofs.Service.Lifecycle
import LeaseQueue.Proofs.Service.Mirror
import LeaseQueue.Proofs.Service.OnLedger
import LeaseQueue.Proofs.Service.Refusals
import LeaseQueue.Proofs.Service.Requests
import LeaseQueue.Proofs.Service.Retries
import LeaseQueue.Proofs.Service.Story
import LeaseQueue.Proofs.Service.Sweeps
import LeaseQueue.Proofs.Service.Trail
import LeaseQueue.Proofs.SortedMap
import LeaseQueue.Proofs.Task.Order
import LeaseQueue.Proofs.Text.Bytes
import LeaseQueue.Proofs.Wire.Body
import LeaseQueue.Proofs.Wire.Convert
import LeaseQueue.Proofs.Wire.Frame
import LeaseQueue.Proofs.Wire.Reader
import LeaseQueue.Proofs.Wire.Size
import LeaseQueue.Proofs.Wire.Stream
import LeaseQueue.Server.Command
import LeaseQueue.Server.Dialogue
import LeaseQueue.Server.Execution
import LeaseQueue.Server.Score
import LeaseQueue.SortedMap
import LeaseQueue.Store.Config
import LeaseQueue.Store.Error
import LeaseQueue.Store.Storage
import LeaseQueue.Store.TaskStore
import LeaseQueue.Table.Cell
import LeaseQueue.Table.Row
import LeaseQueue.Table.Store
import LeaseQueue.Task.Basic
import LeaseQueue.Task.Error
import LeaseQueue.Task.Json
import LeaseQueue.Task.Status
import LeaseQueue.Task.SweepReport
import LeaseQueue.Text.Blank
import LeaseQueue.Text.CharClass
import LeaseQueue.Text.Columns
import LeaseQueue.Text.Emoji
import LeaseQueue.Text.Extender
import LeaseQueue.Text.Hidden
import LeaseQueue.Text.Ligature
import LeaseQueue.Text.Quote
import LeaseQueue.Text.Utf8
import LeaseQueue.Text.Width
import LeaseQueue.Wire.Body
import LeaseQueue.Wire.Convert
import LeaseQueue.Wire.Frame
import LeaseQueue.Wire.Json
import LeaseQueue.Wire.Message
import LeaseQueue.Wire.Network
import LeaseQueue.Yaml.Basic
import LeaseQueue.Yaml.Cursor
import LeaseQueue.Yaml.Parser
import LeaseQueue.Yaml.Reading
import LeaseQueue.Yaml.Scanner
import LeaseQueue.Yaml.Writer
