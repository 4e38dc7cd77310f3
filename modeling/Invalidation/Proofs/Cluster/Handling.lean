import Invalidation.Proofs.Cluster.Broadcast
import Invalidation.Proofs.Command.Sending

/-!
# Handling notifications on a cluster

To handle a notification on a sink that is a cluster is to broadcast the commands that answer it
(`handle_eq`). The calls in between lose nothing, so no handling fails for another reason than a
node that does not carry out a command.
-/

set_option autoImplicit false

namespace Invalidation

namespace Outlet

/-- The end of an action on a cluster, by the cluster after it and the failure that stopped it. -/
def outcome {α : Type} (answer : α) (notices : List Notice) :
    Cluster × Option Failure → EStateM.Result Failure Outlet α
  | (after, none) => .ok answer ⟨.cluster after, notices⟩
  | (after, some failure) => .error failure ⟨.cluster after, notices⟩

/-- On every cluster the action does what broadcasting the command does. -/
def Broadcasts (action : Attempt Outlet Unit) (command : Command) : Prop :=
  ∀ cluster notices, ∃ later,
    action ⟨.cluster cluster, notices⟩ = outcome () later (cluster.broadcast command)

theorem broadcast_cluster (command : Command) (cluster : Cluster) (notices : List Notice) :
    broadcast command ⟨.cluster cluster, notices⟩ =
      outcome () (notices ++ [.log (.broadcasting command cluster.nodes.length)])
        (cluster.broadcast command) := by
  unfold broadcast
  dsimp only [get, getThe, MonadStateOf.get, bind, EStateM.bind, EStateM.get, note, modify,
    modifyGet, MonadStateOf.modifyGet, EStateM.modifyGet]
  rcases cluster.broadcast command with ⟨after, failure⟩
  cases failure with
  | none => rfl
  | some failure => rfl

theorem broadcasts_broadcast (command : Command) : Broadcasts (broadcast command) command :=
  fun cluster notices => ⟨_, broadcast_cluster command cluster notices⟩

/-- A cluster broadcasts the command that a call stands for, and changes nothing if it stands for
none. -/
theorem take_cluster (call : Call) (cluster : Cluster) (notices : List Notice) :
    take call ⟨.cluster cluster, notices⟩ =
      match call.read with
      | .valid command => broadcast command ⟨.cluster cluster, notices⟩
      | .faulty first more => .error (.invalid first more) ⟨.cluster cluster, notices⟩ := by
  change (Attempt.ofChecked call.read >>= broadcast) _ = _
  cases call.read <;> rfl

theorem broadcasts_take {call : Call} {command : Command} (reads : call.read = .valid command) :
    Broadcasts (take call) command := by
  intro cluster notices
  rw [take_cluster, reads]
  exact broadcasts_broadcast command cluster notices

theorem broadcasts_dispatch {command : Command} (sendable : command.Sendable) :
    Broadcasts (dispatch command) command := by
  obtain ⟨call, chosen, reads⟩ := Command.read_of_sendable sendable
  unfold dispatch
  rw [chosen]
  exact broadcasts_take reads

theorem forM_apply {α : Type} {act : α → Attempt Outlet Unit} {orders : List α}
    {commands : List Command}
    (broadcasts : List.Forall₂ (fun order command => Broadcasts (act order) command) orders
      commands)
    (cluster : Cluster) (notices : List Notice) :
    ∃ later, orders.forM act ⟨.cluster cluster, notices⟩ =
      outcome () later (cluster.broadcastAll commands) := by
  induction broadcasts generalizing cluster notices with
  | nil => exact ⟨notices, rfl⟩
  | @cons order command orders commands here _ ih =>
    obtain ⟨between, first⟩ := here cluster notices
    rw [Attempt.forM_cons_apply, first, Cluster.broadcastAll]
    rcases cluster.broadcast command with ⟨after, failure⟩
    cases failure with
    | none => exact ih after between
    | some failure => exact ⟨between, rfl⟩

/-- To handle a notification that has a route is to broadcast the commands that answer it. -/
theorem handle_eq {event : Notification} {route : Route} (mapped : event.route? = some route)
    (cluster : Cluster) (notices : List Notice) :
    ∃ later, handle event ⟨.cluster cluster, notices⟩ =
      outcome (route.expand (Sink.cluster cluster).batches event.payload) later
        (cluster.broadcastAll (route.expand (Sink.cluster cluster).batches event.payload)) := by
  generalize produced : route.expand (Sink.cluster cluster).batches event.payload = commands
  have routed : event.commands (Sink.cluster cluster).batches = .ok commands := by
    rw [Notification.commands, mapped, ← produced]
  have broadcasts : List.Forall₂ (fun order command => Broadcasts (dispatch order) command)
      commands commands :=
    List.forall₂_same.2 fun command member =>
      broadcasts_dispatch (Notification.sendable_of_commands routed command member)
  obtain ⟨later, carried⟩ := forM_apply broadcasts cluster
    (notices ++ [.log (.routing event.topic event.kind commands.length)])
  refine ⟨later, ?_⟩
  rw [handle_apply routed, carried]
  rcases cluster.broadcastAll commands with ⟨after, failure⟩
  cases failure with
  | none => rfl
  | some failure => rfl

end Outlet

end Invalidation
