import SnapshotAgent.Agent.Assembly
import SnapshotAgent.Agent.Host
import SnapshotAgent.Agent.Jobs
import SnapshotAgent.Agent.Manager
import SnapshotAgent.Cli
import SnapshotAgent.Config.Decode
import SnapshotAgent.Config.Duration
import SnapshotAgent.Config.Json
import SnapshotAgent.Config.Model
import SnapshotAgent.Config.Toml.Datetime
import SnapshotAgent.Config.Toml.Error
import SnapshotAgent.Config.Toml.Lex
import SnapshotAgent.Config.Toml.Parse
import SnapshotAgent.Config.Toml.Read
import SnapshotAgent.Config.Toml.Scalar
import SnapshotAgent.Config.Toml.Value
import SnapshotAgent.Config.Validate
import SnapshotAgent.Failure
import SnapshotAgent.Files
import SnapshotAgent.Json.Basic
import SnapshotAgent.Json.Decode
import SnapshotAgent.Json.Parse
import SnapshotAgent.Json.Pointer
import SnapshotAgent.Logging
import SnapshotAgent.Main
import SnapshotAgent.Metrics.Error
import SnapshotAgent.Metrics.Module
import SnapshotAgent.Metrics.Quantity
import SnapshotAgent.Network
import SnapshotAgent.Notify.Error
import SnapshotAgent.Notify.Payload
import SnapshotAgent.Notify.Transport
import SnapshotAgent.Number.Binary64
import SnapshotAgent.Number.FloatText
import SnapshotAgent.Number.Integer
import SnapshotAgent.Number.Shortest
import SnapshotAgent.Program
import SnapshotAgent.Registry
import SnapshotAgent.Schedule.Field
import SnapshotAgent.Schedule.Next
import SnapshotAgent.Schedule.Parse
import SnapshotAgent.Schedule.Scheduler
import SnapshotAgent.Shell.Arith
import SnapshotAgent.Shell.Builtin
import SnapshotAgent.Shell.Condition
import SnapshotAgent.Shell.Format
import SnapshotAgent.Shell.Pattern
import SnapshotAgent.Shell.Process
import SnapshotAgent.Shell.Regex
import SnapshotAgent.Shell.Run
import SnapshotAgent.Shell.Spawn
import SnapshotAgent.Shell.State
import SnapshotAgent.Shell.Syntax
import SnapshotAgent.Shell.Utility.Basic
import SnapshotAgent.Shell.Utility.Expr
import SnapshotAgent.Shell.Utility.Lines
import SnapshotAgent.Shell.Utility.Search
import SnapshotAgent.Store.Cell
import SnapshotAgent.Store.Error
import SnapshotAgent.Store.Expr
import SnapshotAgent.Store.Read
import SnapshotAgent.Store.Retry
import SnapshotAgent.Store.Schema
import SnapshotAgent.Store.Sql.Eval
import SnapshotAgent.Store.Sql.Format
import SnapshotAgent.Store.Sql.Functions
import SnapshotAgent.Store.Sql.Lex
import SnapshotAgent.Store.Sql.Parse
import SnapshotAgent.Store.Sql.Resolve
import SnapshotAgent.Store.Sql.Run
import SnapshotAgent.Store.Sql.Write
import SnapshotAgent.Store.Table
import SnapshotAgent.Store.Uploads
import SnapshotAgent.Testing.Builders
import SnapshotAgent.Testing.InfoOutput
import SnapshotAgent.Testing.Script
import SnapshotAgent.Testing.StandIn
import SnapshotAgent.Text.Blank
import SnapshotAgent.Text.CodeRange
import SnapshotAgent.Text.Digit
import SnapshotAgent.Text.Lower
import SnapshotAgent.Text.Quoted
import SnapshotAgent.Text.Search
import SnapshotAgent.Text.Utf8
import SnapshotAgent.Time.Civil
import SnapshotAgent.Time.Duration
import SnapshotAgent.Time.Instant
import SnapshotAgent.Time.Layout
import SnapshotAgent.Time.Text
import SnapshotAgent.Tool.Error
import SnapshotAgent.Tool.Runner
import SnapshotAgent.Upload.Json
import SnapshotAgent.Upload.Record
import SnapshotAgent.Upload.Report
import SnapshotAgent.Upload.Snapshot
import SnapshotAgent.Upload.Status
import SnapshotAgent.Proofs.Store.Evaluation
import SnapshotAgent.Proofs.Store.Update
import SnapshotAgent.Proofs.Store.Insert
import SnapshotAgent.Proofs.Store.Session
import SnapshotAgent.Proofs.Store.Operations
import SnapshotAgent.Proofs.Store.Invariant
import SnapshotAgent.Proofs.Store.Percent
import SnapshotAgent.Proofs.Upload.Report
import SnapshotAgent.Proofs.Store.Merge
import SnapshotAgent.Proofs.Store.Outcomes
import SnapshotAgent.Proofs.Agent.Host
import SnapshotAgent.Proofs.Agent.Reconcile
import SnapshotAgent.Proofs.Upload.Verdict
import SnapshotAgent.Proofs.Agent.Skip
import SnapshotAgent.Proofs.Agent.Tick
import SnapshotAgent.Proofs.Store.Retry
import SnapshotAgent.Proofs.Text.Join
import SnapshotAgent.Proofs.Upload.LineOrder
import SnapshotAgent.Proofs.Time.InstantOrder
import SnapshotAgent.Proofs.Schedule.FireTimes
import SnapshotAgent.Proofs.Time.Calendar
import SnapshotAgent.Proofs.Time.TextOrder
import SnapshotAgent.Proofs.Store.Query
import SnapshotAgent.Proofs.Store.Select
import SnapshotAgent.Proofs.Store.ReadOrder
import SnapshotAgent.Proofs.Json.ReadBack
import SnapshotAgent.Proofs.Time.ReadBack
import SnapshotAgent.Proofs.Config.Duration
import SnapshotAgent.Proofs.Config.Acceptance
import SnapshotAgent.Proofs.Agent.Cancellation
import SnapshotAgent.Proofs.Store.ReadBack
import SnapshotAgent.Proofs.Store.Creation
import SnapshotAgent.Proofs.Store.StatusReport
import SnapshotAgent.Proofs.Store.History
import SnapshotAgent.Proofs.Store.NextIds
import SnapshotAgent.Proofs.Metrics.HexQuantity
import SnapshotAgent.Proofs.Upload.Elapsed
import SnapshotAgent.Proofs.Registry.Registration
import SnapshotAgent.Proofs.Agent.Dispatch
import SnapshotAgent.Proofs.Agent.AtomicSteps
import SnapshotAgent.Proofs.Agent.Groups
import SnapshotAgent.Proofs.Agent.MonitorTasks
import SnapshotAgent.Proofs.Agent.InitiationRace
import SnapshotAgent.Proofs.Agent.FinishRace
import SnapshotAgent.Proofs.Agent.DiscoveryGroup
import SnapshotAgent.Proofs.Agent.ReconcileGroup
import SnapshotAgent.Proofs.Agent.MonitorTick
