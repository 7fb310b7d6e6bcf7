import ControlPlane.Duration
import ControlPlane.Text.Blank
import ControlPlane.Frame
import ControlPlane.Query.File
import ControlPlane.Pipeline.Run
import ControlPlane.Json.Decoding
import ControlPlane.Message.Decoding
import ControlPlane.Delivery.Channel
import ControlPlane.Delivery.Distributor
import ControlPlane.Delivery.Recording
import ControlPlane.Bootstrap.Basic
import ControlPlane.Orchestration.Error
import ControlPlane.Ini.Basic
import ControlPlane.Ini.Reader
import ControlPlane.Config.File
import ControlPlane.Orchestration.Plan
import ControlPlane.Bootstrap.Sequence
import ControlPlane.Bootstrap.Supervision
import ControlPlane.Rehearsal.Actor
import ControlPlane.Rehearsal.Ensemble
import ControlPlane.Rehearsal.Supervise
import ControlPlane.Address.Basic
import ControlPlane.Network
import ControlPlane.Delivery.Tcp
import ControlPlane.Feedback.Reception
import ControlPlane.Worker.Loopback
import ControlPlane.Delivery.Desk
import ControlPlane.Feedback.Listener
import ControlPlane.Orchestration.Run
import ControlPlane.Orchestration.Step
import ControlPlane.Rehearsal.Process
import ControlPlane.Rehearsal.Listening
import ControlPlane.Rehearsal.Orchestra
import ControlPlane.FileTree
import ControlPlane.Shell.Evaluation
import ControlPlane.Rehearsal.Commands
import ControlPlane.Cli.Manual
import ControlPlane.Cli.Command
import ControlPlane.Cli.Error
import ControlPlane.Cli.Program
import ControlPlane.Main
import ControlPlane.Proofs.Pipeline.Numbering
import ControlPlane.Proofs.Delivery.Protocol
import ControlPlane.Proofs.Orchestration.Floor
import ControlPlane.Proofs.Orchestration.Moves
import ControlPlane.Proofs.Pipeline.Growth
import ControlPlane.Proofs.Orchestration.Chronicle
import ControlPlane.Proofs.Orchestration.Turns
import ControlPlane.Proofs.Orchestration.Ordering
import ControlPlane.Proofs.Orchestration.Agreement
import ControlPlane.Proofs.Orchestration.Unfolding
import ControlPlane.Proofs.Orchestration.Silence
import ControlPlane.Proofs.Orchestration.Waiting
import ControlPlane.Proofs.Json.Values
import ControlPlane.Proofs.Json.Tokens
import ControlPlane.Proofs.Json.Reading
import ControlPlane.Proofs.Json.RoundTrip
import ControlPlane.Proofs.Message.Envelope
import ControlPlane.Proofs.Json.Shapes
import ControlPlane.Proofs.Message.RoundTrip
import ControlPlane.Proofs.Json.Grammar
import ControlPlane.Proofs.Json.Scanning
import ControlPlane.Proofs.Json.Loops
import ControlPlane.Proofs.Json.Texts
import ControlPlane.Proofs.Json.Skipping
import ControlPlane.Proofs.Json.Records
import ControlPlane.Proofs.Json.Fields
import ControlPlane.Proofs.Json.Escapes
import ControlPlane.Proofs.Query.Texts
import ControlPlane.Proofs.Message.Version
import ControlPlane.Proofs.Feedback.Forwarding
import ControlPlane.Proofs.Feedback.History
import ControlPlane.Proofs.Feedback.Accounting
import ControlPlane.Proofs.Feedback.Moves
import ControlPlane.Proofs.Feedback.Limits
import ControlPlane.Proofs.Bootstrap.Failure
import ControlPlane.Proofs.Bootstrap.Readiness
import ControlPlane.Proofs.Worker.Waiting
import ControlPlane.Proofs.Worker.Lifecycle
import ControlPlane.Proofs.Delivery.Repetition
import ControlPlane.Proofs.Ini.Rendering
import ControlPlane.Proofs.Config.Changes
import ControlPlane.Proofs.Config.Loading
import ControlPlane.Proofs.Config.Reopening
import ControlPlane.Proofs.Config.Plain
import ControlPlane.Proofs.Config.RoundTrip
import ControlPlane.Proofs.Bootstrap.Supervision
import ControlPlane.Proofs.Orchestration.Arising
import ControlPlane.Proofs.Pipeline.Effect
import ControlPlane.Proofs.Delivery.Attempts
import ControlPlane.Proofs.Bootstrap.Incidents
import ControlPlane.Proofs.Bootstrap.Report
import ControlPlane.Proofs.Delivery.StandIns
import ControlPlane.Proofs.Delivery.Pauses
import ControlPlane.Proofs.Pipeline.Batching
import ControlPlane.Proofs.Pipeline.Partition
import ControlPlane.Proofs.Pipeline.Reference
import ControlPlane.Proofs.Config.Overlay
