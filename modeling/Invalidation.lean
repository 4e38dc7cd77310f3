import Invalidation.Attempt
import Invalidation.Binder
import Invalidation.Bus
import Invalidation.Call
import Invalidation.Checked
import Invalidation.Cluster
import Invalidation.Coded
import Invalidation.Collection
import Invalidation.Command
import Invalidation.Dispatch
import Invalidation.Failure
import Invalidation.Host
import Invalidation.Host.RootLog
import Invalidation.Host.Threshold
import Invalidation.HostName
import Invalidation.HostName.Context
import Invalidation.HostName.Direction
import Invalidation.HostName.Label
import Invalidation.HostName.Permitted
import Invalidation.Index
import Invalidation.Journal
import Invalidation.Key
import Invalidation.Kind
import Invalidation.Node
import Invalidation.Node.Shown
import Invalidation.Node.Walk
import Invalidation.Notice
import Invalidation.Notification
import Invalidation.Payload
import Invalidation.Proofs.Cluster.Batching
import Invalidation.Proofs.Cluster.Broadcast
import Invalidation.Proofs.Cluster.Eviction
import Invalidation.Proofs.Cluster.Handling
import Invalidation.Proofs.Cluster.Interruption
import Invalidation.Proofs.Cluster.Journal
import Invalidation.Proofs.Cluster.Retry
import Invalidation.Proofs.Command.Carriage
import Invalidation.Proofs.Command.Expansion
import Invalidation.Proofs.Command.Faults
import Invalidation.Proofs.Command.Sending
import Invalidation.Proofs.Host.Building
import Invalidation.Proofs.Host.Lifespan
import Invalidation.Proofs.Node.Coverage
import Invalidation.Proofs.Node.History
import Invalidation.Proofs.Node.Sequence
import Invalidation.Proofs.Node.Subtree
import Invalidation.Proofs.Node.Walk
import Invalidation.Proofs.Reading.Acceptance
import Invalidation.Proofs.Reading.Faults
import Invalidation.Proofs.Record.Canonical
import Invalidation.Proofs.Record.RoundTrip
import Invalidation.Proofs.Record.Spelling
import Invalidation.Proofs.Recorder.Handling
import Invalidation.Proofs.Recorder.Refusal
import Invalidation.Proofs.Settings.Decision
import Invalidation.Proofs.Settings.Layers
import Invalidation.Proofs.Text.Casing
import Invalidation.Proofs.World.Attachment
import Invalidation.Proofs.World.Calls
import Invalidation.Proofs.World.Course
import Invalidation.Proofs.World.Delivery
import Invalidation.Proofs.World.Foreign
import Invalidation.Proofs.World.Lifecycle
import Invalidation.Proofs.World.Reaction
import Invalidation.Proofs.World.Snapshot
import Invalidation.Proofs.World.Tandem
import Invalidation.Raw
import Invalidation.Raw.Display
import Invalidation.Reading
import Invalidation.Record
import Invalidation.Record.Assign
import Invalidation.Record.Dump
import Invalidation.Record.Reading
import Invalidation.Recorder
import Invalidation.Route
import Invalidation.Session
import Invalidation.Settings
import Invalidation.Settings.Environment
import Invalidation.Settings.Sources
import Invalidation.Table
import Invalidation.Target
import Invalidation.Target.Address
import Invalidation.Target.Redirect
import Invalidation.Text.Blank
import Invalidation.Text.Cased
import Invalidation.Text.Casing
import Invalidation.Text.Composition
import Invalidation.Text.Composition.Table
import Invalidation.Text.Digit
import Invalidation.Text.Escape
import Invalidation.Text.Lowercase
import Invalidation.Text.Marks
import Invalidation.Text.Numeral
import Invalidation.Text.Punycode
import Invalidation.Text.Quoted
import Invalidation.Text.Ranges
import Invalidation.Text.Shortest
import Invalidation.Text.Switch
import Invalidation.Text.Unassigned
import Invalidation.Topic
import Invalidation.World
