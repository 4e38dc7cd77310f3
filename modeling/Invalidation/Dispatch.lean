import Invalidation.Attempt
import Invalidation.Cluster
import Invalidation.Notice
import Invalidation.Recorder
import Invalidation.Route

/-!
# Dispatching commands

A notification is handled by routing it and carrying out its commands one by one on a sink,
each by a single call. The first failure ends the handling; what was done before it stays done.

Source: `NotificationRouter.handle` and `NotificationRouter._dispatch`, and the methods of
`ClusterMessenger` and `RecordingDistributedCache`.
-/

set_option autoImplicit false

namespace Invalidation

/-- Where commands go: they are only recorded, or broadcast to a cluster. -/
inductive Sink where
  | recorder (recorder : Recorder)
  | cluster (cluster : Cluster)

def Sink.kind : Sink → SinkKind
  | .recorder r => if r.watched then .watched else .recorder
  | .cluster _ => .cluster

/-- What a sink says about batches, if anything. -/
def Sink.acceptsBatches? : Sink → Option Raw
  | .recorder r => r.acceptsBatches
  | .cluster c => some c.acceptsBatches

/-- Whether a sink may be given commands with many keys. -/
def Sink.batches (sink : Sink) : Bool := sink.acceptsBatches?.any Raw.truthy

/-- A sink and the notices given so far, oldest first. -/
structure Outlet where
  sink : Sink
  notices : List Notice

namespace Outlet

def note (notice : Notice) : Attempt Outlet Unit :=
  modify fun outlet => { outlet with notices := outlet.notices ++ [notice] }

def broadcast (command : Command) : Attempt Outlet Unit := do
  match (← get).sink with
  | .recorder r => throw (.unsupported (Sink.recorder r).kind .broadcast)
  | .cluster cluster =>
    note (.log (.broadcasting command cluster.nodes.length))
    let (after, failure) := cluster.broadcast command
    modify fun outlet => { outlet with sink := .cluster after }
    match failure with
    | none => pure ()
    | some failure => throw failure

/-- Takes a call. The command is read from the call before anything is changed. A watched sink
tells of the call first, and one that refuses it does not look at its arguments. -/
def take (call : Call) : Attempt Outlet Unit := do
  match (← get).sink with
  | .recorder recorder =>
    if recorder.watched then note (.sinkCall call)
    if ← Attempt.ofExcept ((recorder.refuses call).mapError .misfit) then
      throw (.refused call.method)
    let command ← Attempt.ofChecked call.read
    modify fun outlet => { outlet with sink := .recorder (recorder.record command) }
  | .cluster _ => broadcast (← Attempt.ofChecked call.read)

def dispatch (command : Command) : Attempt Outlet Unit :=
  match command.call? with
  | some call => take call
  | none => throw .keyless

def route (notification : Notification) : Attempt Outlet (List Command) := do
  Attempt.ofExcept (notification.commands (← get).sink.batches)

/-- Routes a notification and carries out its commands in order. -/
def handle (notification : Notification) : Attempt Outlet (List Command) := do
  let commands ← route notification
  note (.log (.routing notification.topic notification.kind commands.length))
  commands.forM dispatch
  return commands

end Outlet

end Invalidation
