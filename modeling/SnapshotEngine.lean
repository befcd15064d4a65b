import SnapshotEngine.Command
import SnapshotEngine.Config
import SnapshotEngine.Config.Arguments
import SnapshotEngine.Config.Environment
import SnapshotEngine.Config.Json
import SnapshotEngine.Config.Json5
import SnapshotEngine.Config.Load
import SnapshotEngine.Config.Toml
import SnapshotEngine.Config.Value
import SnapshotEngine.Config.Yaml
import SnapshotEngine.Config.Yaml.Block
import SnapshotEngine.Config.Yaml.Cursor
import SnapshotEngine.Config.Yaml.Node
import SnapshotEngine.Config.Yaml.Outline
import SnapshotEngine.Config.Yaml.Scalar
import SnapshotEngine.Config.Yaml.Tag
import SnapshotEngine.Config.Yaml.Token
import SnapshotEngine.Config.Yaml.Tokens
import SnapshotEngine.Config.Yaml.Value
import SnapshotEngine.ControlPlane.Client
import SnapshotEngine.ControlPlane.Error
import SnapshotEngine.Directory
import SnapshotEngine.Discovery
import SnapshotEngine.Duration
import SnapshotEngine.Engine
import SnapshotEngine.Failure
import SnapshotEngine.Http
import SnapshotEngine.Identifier
import SnapshotEngine.Job.Request
import SnapshotEngine.Job.Status
import SnapshotEngine.Json.Document
import SnapshotEngine.Json.Escape
import SnapshotEngine.Json.Reader
import SnapshotEngine.Json.Value
import SnapshotEngine.Json.Writer
import SnapshotEngine.ObjectName
import SnapshotEngine.Operation
import SnapshotEngine.Operation.Backup
import SnapshotEngine.Operation.Call
import SnapshotEngine.Operation.Confirmation
import SnapshotEngine.Operation.Progress
import SnapshotEngine.Operation.Removal
import SnapshotEngine.Operation.Restore
import SnapshotEngine.Poller
import SnapshotEngine.Proofs.ControlPlane.Acceptance
import SnapshotEngine.Proofs.ControlPlane.Address
import SnapshotEngine.Proofs.ControlPlane.Answer
import SnapshotEngine.Proofs.ControlPlane.Wire
import SnapshotEngine.Proofs.Depot.Attempts
import SnapshotEngine.Proofs.Depot.Erased
import SnapshotEngine.Proofs.Depot.Isolation
import SnapshotEngine.Proofs.Depot.Moved
import SnapshotEngine.Proofs.Depot.Rehearsal
import SnapshotEngine.Proofs.Depot.Repeated
import SnapshotEngine.Proofs.Depot.Run
import SnapshotEngine.Proofs.Depot.Stored
import SnapshotEngine.Proofs.Discovery.Claim
import SnapshotEngine.Proofs.Discovery.FirstClaim
import SnapshotEngine.Proofs.Engine.Account
import SnapshotEngine.Proofs.Engine.Attempts
import SnapshotEngine.Proofs.Engine.BlankNames
import SnapshotEngine.Proofs.Engine.Cache
import SnapshotEngine.Proofs.Engine.Calls
import SnapshotEngine.Proofs.Engine.Commands
import SnapshotEngine.Proofs.Engine.Complete
import SnapshotEngine.Proofs.Engine.Confirmation
import SnapshotEngine.Proofs.Engine.Explicit
import SnapshotEngine.Proofs.Engine.Heard
import SnapshotEngine.Proofs.Engine.History
import SnapshotEngine.Proofs.Engine.InFlight
import SnapshotEngine.Proofs.Engine.LastUpload
import SnapshotEngine.Proofs.Engine.Naming
import SnapshotEngine.Proofs.Engine.Owned
import SnapshotEngine.Proofs.Engine.Ownership
import SnapshotEngine.Proofs.Engine.Phases
import SnapshotEngine.Proofs.Engine.Provenance
import SnapshotEngine.Proofs.Engine.Registered
import SnapshotEngine.Proofs.Engine.Restart
import SnapshotEngine.Proofs.Engine.Step
import SnapshotEngine.Proofs.Engine.Targets
import SnapshotEngine.Proofs.Engine.WellFormed
import SnapshotEngine.Proofs.Identifier.Grammar
import SnapshotEngine.Proofs.Identifier.RoundTrip
import SnapshotEngine.Proofs.Json.Grammar
import SnapshotEngine.Proofs.Json.RoundTrip
import SnapshotEngine.Proofs.Json.Strings
import SnapshotEngine.Proofs.ObjectName
import SnapshotEngine.Proofs.ObjectName.Directory
import SnapshotEngine.Proofs.Operation.Account
import SnapshotEngine.Proofs.Operation.Backup
import SnapshotEngine.Proofs.Operation.Confirmation
import SnapshotEngine.Proofs.Operation.Course
import SnapshotEngine.Proofs.Operation.Removal
import SnapshotEngine.Proofs.Operation.Resolution
import SnapshotEngine.Proofs.Operation.Restore
import SnapshotEngine.Proofs.Operation.Step
import SnapshotEngine.Proofs.Poller
import SnapshotEngine.Proofs.Poller.Inquiry
import SnapshotEngine.Proofs.Poller.Settling
import SnapshotEngine.Proofs.Poller.Watch
import SnapshotEngine.Proofs.Registry.Alike
import SnapshotEngine.Proofs.Registry.Record
import SnapshotEngine.Proofs.Rehearsal.Alone
import SnapshotEngine.Proofs.Rehearsal.Confirming
import SnapshotEngine.Proofs.Rehearsal.Hope
import SnapshotEngine.Proofs.Rehearsal.Leeway
import SnapshotEngine.Proofs.Rehearsal.Motion
import SnapshotEngine.Proofs.Rehearsal.Outcome
import SnapshotEngine.Proofs.Rehearsal.Patience
import SnapshotEngine.Proofs.Rehearsal.Prompt
import SnapshotEngine.Proofs.Rehearsal.Standing
import SnapshotEngine.Proofs.Rehearsal.Timetable
import SnapshotEngine.Proofs.Rehearsal.World
import SnapshotEngine.Proofs.Url.Parse
import SnapshotEngine.Proofs.Url.Path
import SnapshotEngine.Proofs.Url.Percent
import SnapshotEngine.Proofs.Wiring
import SnapshotEngine.Registry
import SnapshotEngine.Registry.Session
import SnapshotEngine.Rehearsal.Cast
import SnapshotEngine.Rehearsal.ControlPlane
import SnapshotEngine.Rehearsal.Directory
import SnapshotEngine.Rehearsal.Host
import SnapshotEngine.Rehearsal.ObjectStore
import SnapshotEngine.Rehearsal.PollerDrill
import SnapshotEngine.Rehearsal.Runner
import SnapshotEngine.Rehearsal.Script
import SnapshotEngine.Rehearsal.Shell.Arithmetic
import SnapshotEngine.Rehearsal.Shell.Builtin
import SnapshotEngine.Rehearsal.Shell.Field
import SnapshotEngine.Rehearsal.Shell.Invocation
import SnapshotEngine.Rehearsal.Shell.Pattern
import SnapshotEngine.Rehearsal.Shell.Printing
import SnapshotEngine.Rehearsal.Shell.Program
import SnapshotEngine.Rehearsal.Shell.Reader
import SnapshotEngine.Rehearsal.Shell.Run
import SnapshotEngine.Rehearsal.Shell.Signal
import SnapshotEngine.Rehearsal.Shell.State
import SnapshotEngine.Rehearsal.Shell.Syntax
import SnapshotEngine.Rehearsal.Shell.Token
import SnapshotEngine.Rehearsal.Shell.Trial
import SnapshotEngine.Rehearsal.Site
import SnapshotEngine.Rehearsal.World
import SnapshotEngine.Settings
import SnapshotEngine.Table
import SnapshotEngine.Text.Base64
import SnapshotEngine.Text.Blank
import SnapshotEngine.Text.Cut
import SnapshotEngine.Text.Decimal
import SnapshotEngine.Text.Digits
import SnapshotEngine.Text.Hex
import SnapshotEngine.Text.Hidden
import SnapshotEngine.Text.Letter
import SnapshotEngine.Text.Line
import SnapshotEngine.Text.Quoted
import SnapshotEngine.Text.Utf8
import SnapshotEngine.Transfer
import SnapshotEngine.Transfer.DataMover
import SnapshotEngine.Url
import SnapshotEngine.Url.Form
import SnapshotEngine.Url.Host
import SnapshotEngine.Url.Path
import SnapshotEngine.Url.Percent
import SnapshotEngine.Volume
import SnapshotEngine.Wiring
