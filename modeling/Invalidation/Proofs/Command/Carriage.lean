import Invalidation.Proofs.Cluster.Handling
import Invalidation.Proofs.Notification.Answer
import Invalidation.Proofs.Recorder.Handling

/-!
# How a sink gets a command

A command is taken apart into a call of one of six methods, and every sink puts it together again.
For the commands that routes produce this loses nothing and never fails for want of a key
(`Outlet.Carries`): a method for many keys is only called for a command that has them, on a sink
that says it takes batches. So a notification that is handled to the end leaves the commands that
answer it, and nothing else, behind what a recorder or a journal had before
(`Outlet.dispatch_loses_nothing`).
-/

set_option autoImplicit false

namespace Invalidation

/-- A method for many keys is only chosen for a command that has them. -/
theorem Command.two_le_length_of_call? {command : Command} {call : Call}
    (chosen : command.call? = some call)
    (many : call.method = .refreshMany ∨ call.method = .removeMany) :
    2 ≤ command.keys.length := by
  obtain ⟨region, operation, keys⟩ := command
  match operation, keys with
  | .refresh, _ :: _ :: rest | .remove, _ :: _ :: rest => simp
  | .refresh, [] | .remove, [] | .refreshBranch, [] => cases chosen
  | .refresh, [_] | .remove, [_] | .refreshBranch, _ :: _ | .refreshAll, _ =>
    cases chosen
    simp [Call.method] at many

theorem Command.length_keys_single (region : Region) (operation : Operation) (id : Int) :
    (Command.single region operation id).keys.length ≤ 1 := by
  cases operation <;> simp [Command.single]

/-- Only a batch has more than one key. -/
theorem Route.batches_of_two_le_length {route : Route} {form : Form} {payload : Payload form}
    {batches : Bool} {command : Command} (produced : command ∈ route.expand batches payload)
    (many : 2 ≤ command.keys.length) : batches = true := by
  by_cases whole : route.shape = .region
  · by_cases empty : payload.ids = []
    · rw [expand_of_nil empty] at produced
      cases produced
    · rw [expand_of_region empty whole] at produced
      obtain rfl := List.mem_singleton.1 produced
      cases many
  · rcases expand_of_part whole batches payload with alone | ⟨-, taken, -⟩
    · rw [alone] at produced
      obtain ⟨step, -, rfl⟩ := List.mem_map.1 produced
      have few := Command.length_keys_single route.region step.1 step.2
      omega
    · exact taken

theorem Sink.batches_eq_true_iff {sink : Sink} :
    sink.batches = true ↔ ∃ flag, sink.acceptsBatches? = some flag ∧ flag.truthy = true := by
  rw [Sink.batches, Option.any_eq_true]

theorem Cluster.deliver_ne_keyless (command : Command) (nodes : List Node) :
    (deliver command nodes).2 ≠ some .keyless := by
  induction nodes with
  | nil => nofun
  | cons node rest ih =>
    unfold deliver
    cases failed : node.failure? command with
    | none => exact ih
    | some failure =>
      rintro same
      obtain rfl : failure = .keyless := Option.some.inj same
      unfold Node.failure? at failed
      split at failed
      · cases failed
      · obtain ⟨_, -, misfit⟩ := Option.map_eq_some_iff.1 failed
        cases misfit

namespace Outlet

/-- A call that stands for a command is not taken for one without a key. -/
theorem take_ne_keyless {call : Call} {command : Command} (reads : call.read = .valid command)
    (outlet after : Outlet) : take call outlet ≠ .error .keyless after := by
  obtain ⟨sink, notices⟩ := outlet
  cases sink with
  | recorder recorder =>
    rw [take_recorder, receive, reads]
    rcases recorder.refuses call with misfit | refused
    · nofun
    · cases refused <;> nofun
  | cluster cluster =>
    obtain ⟨later, taken⟩ := broadcasts_take reads cluster notices
    have keyed := Cluster.deliver_ne_keyless command cluster.nodes
    rw [taken, Cluster.broadcast_eq]
    generalize Cluster.deliver command cluster.nodes = delivered at keyed ⊢
    obtain ⟨nodes, failure⟩ := delivered
    cases failure with
    | none => nofun
    | some failure =>
      intro same
      obtain rfl : failure = .keyless := (EStateM.Result.error.inj same).1
      exact keyed rfl

/-- The call carries the command to a sink that says so much about batches. -/
structure Carries (flag? : Option Raw) (call : Call) (command : Command) : Prop where
  chosen : command.call? = some call
  /-- To carry out the command is to make this one call. -/
  only : dispatch command = take call
  /-- No key is looked for that is not there. -/
  keyed : ∀ outlet after, dispatch command outlet ≠ .error .keyless after
  /-- A method for many keys is called for more than one, and only if the sink takes batches. -/
  many : call.method = .refreshMany ∨ call.method = .removeMany →
    (∃ flag, flag? = some flag ∧ flag.truthy = true) ∧ 2 ≤ command.keys.length
  reads : call.read = .valid command
  /-- A recorder that does not refuse the call records the command, and tells of this one call if
  it is watched. -/
  recorded : ∀ recorder notices, recorder.refuses call = .ok false →
    dispatch command ⟨.recorder recorder, notices⟩ =
      .ok () ⟨.recorder { recorder with commands := recorder.commands ++ [command] },
        notices ++ if recorder.watched then [.sinkCall call] else []⟩
  /-- A cluster notes the command, whether or not its nodes carry it out. -/
  noted : ∀ cluster notices, ∃ after failure later,
    dispatch command ⟨.cluster cluster, notices⟩ = outcome () later (after, failure) ∧
      after.journal.commands =
        keepLast cluster.journal.bound (cluster.journal.commands ++ [command])

/-- One call carries a sendable command. -/
theorem exists_carries {command : Command} (sendable : command.Sendable) {flag? : Option Raw}
    (batches : 2 ≤ command.keys.length → ∃ flag, flag? = some flag ∧ flag.truthy = true) :
    ∃ call, Carries flag? call command := by
  obtain ⟨call, chosen, reads⟩ := Command.read_of_sendable sendable
  have only : dispatch command = take call := by
    unfold dispatch
    rw [chosen]
  refine ⟨call, chosen, only, ?_, ?_, reads, ?_, ?_⟩
  · rw [only]
    exact take_ne_keyless reads
  · intro many
    have several := Command.two_le_length_of_call? chosen many
    exact ⟨batches several, several⟩
  · intro recorder notices accepted
    exact (dispatch_recorder_eq_ok_iff chosen reads recorder notices _).2 ⟨accepted, rfl⟩
  · intro cluster notices
    obtain ⟨later, carried⟩ := broadcasts_dispatch sendable cluster notices
    exact ⟨_, _, later, carried, rfl⟩

theorem route_eq_ok_iff {event : Notification} {outlet after : Outlet} {commands : List Command} :
    route event outlet = .ok commands after ↔
      event.commands outlet.sink.batches = .ok commands ∧ after = outlet := by
  rw [route_apply]
  cases event.commands outlet.sink.batches with
  | error failure => exact iff_of_false nofun nofun
  | ok answer =>
    constructor
    · intro ended
      cases ended
      exact ⟨rfl, rfl⟩
    · rintro ⟨same, rfl⟩
      cases same
      rfl

/-- What is handled to the end on a cluster was routed, and stands at the end of its journal. -/
theorem noted_of_handle {event : Notification} {cluster : Cluster} {notices : List Notice}
    {commands : List Command} {after : Outlet}
    (handled : handle event ⟨.cluster cluster, notices⟩ = .ok commands after) :
    event.commands (Sink.cluster cluster).batches = .ok commands ∧
      ∃ left later, after = ⟨.cluster left, later⟩ ∧
        left.journal.commands =
          keepLast cluster.journal.bound (cluster.journal.commands ++ commands) := by
  cases routed : event.commands (Sink.cluster cluster).batches with
  | error failure =>
    have refused : handle event ⟨.cluster cluster, notices⟩ = _ := handle_of_unrouted routed
    rw [refused] at handled
    cases handled
  | ok answer =>
    obtain ⟨route, mapped, rfl⟩ := Notification.commands_eq_ok_iff.1 routed
    obtain ⟨later, carried⟩ := handle_eq mapped cluster notices
    rw [carried] at handled
    generalize ended :
      cluster.broadcastAll (route.expand (Sink.cluster cluster).batches event.payload) = result
        at handled
    obtain ⟨left, failure⟩ := result
    cases failure with
    | some failure => cases handled
    | none =>
      cases handled
      have accepts := Cluster.accepts_of_broadcastAll (congrArg Prod.snd ended)
      rw [Cluster.broadcastAll_eq_of_accepts accepts] at ended
      obtain ⟨rfl, -⟩ := Prod.mk.inj ended
      exact ⟨rfl, _, later, rfl, Journal.commands_recordAll _ _⟩

/-- Each command that answers a notification is carried by one call, on whatever sink. So handling
ends well on a recorder exactly if the notification is routed and none of these calls is refused;
and then the commands are answered and stand, each just once and in order, behind what the recorder
or the journal of the cluster had before. -/
theorem dispatch_loses_nothing (event : Notification) :
    (∀ outlet commands, route event outlet = .ok commands outlet →
      ∀ command ∈ commands, ∃ call, Carries outlet.sink.acceptsBatches? call command) ∧
    (∀ recorder notices commands after,
      handle event ⟨.recorder recorder, notices⟩ = .ok commands after ↔
        route event ⟨.recorder recorder, notices⟩ = .ok commands ⟨.recorder recorder, notices⟩ ∧
          (∀ call ∈ commands.filterMap Command.call?, recorder.refuses call = .ok false) ∧
            after = ⟨.recorder { recorder with commands := recorder.commands ++ commands },
              notices ++ .log (.routing event.topic event.kind commands.length) ::
                if recorder.watched then (commands.filterMap Command.call?).map .sinkCall
                else []⟩) ∧
    ∀ cluster notices commands after,
      handle event ⟨.cluster cluster, notices⟩ = .ok commands after →
        route event ⟨.cluster cluster, notices⟩ = .ok commands ⟨.cluster cluster, notices⟩ ∧
          ∃ left later, after = ⟨.cluster left, later⟩ ∧
            left.journal.commands =
              keepLast cluster.journal.bound (cluster.journal.commands ++ commands) := by
  refine ⟨?_, ?_, ?_⟩
  · intro outlet commands routed command produced
    obtain ⟨answered, -⟩ := route_eq_ok_iff.1 routed
    refine exists_carries (Notification.sendable_of_commands answered command produced) ?_
    intro several
    obtain ⟨route, -, rfl⟩ := Notification.commands_eq_ok_iff.1 answered
    exact Sink.batches_eq_true_iff.1 (Route.batches_of_two_le_length produced several)
  · intro recorder notices commands after
    rw [handle_recorder_eq_ok_iff, route_eq_ok_iff, and_iff_left rfl]
    rfl
  · intro cluster notices commands after handled
    obtain ⟨answered, noted⟩ := noted_of_handle handled
    exact ⟨route_eq_ok_iff.2 ⟨answered, rfl⟩, noted⟩

/-- Two members are removed together on a watched recorder that takes batches, and edits of a tree
one by one, the last of them without a key. -/
theorem dispatch_loses_no_batch :
    let members : Notification :=
      { topic := .deleted .member
        kind := .item .member
        payload := .entities [⟨4⟩, ⟨4⟩]
        admitted := fun _ pinned => Option.some.inj pinned }
    let edits : Notification :=
      { topic := .treeChanged .media
        kind := .tree .media
        payload := .trees [⟨⟨2⟩, .refreshBranch⟩, ⟨⟨3⟩, .refreshAll⟩]
        admitted := fun _ pinned => Option.some.inj pinned }
    let recorder : Recorder := ⟨some (.int 1), true, Recorder.acceptAll, [⟨.user, .refresh, [7]⟩]⟩
    let together : Command := ⟨.member, .remove, [4, 4]⟩
    let apart : List Command := [⟨.media, .refreshBranch, [2]⟩, ⟨.media, .refreshAll, []⟩]
    (∃ call, Carries recorder.acceptsBatches call together ∧ call.method = .removeMany) ∧
      (∃ later, handle members ⟨.recorder recorder, []⟩ =
        .ok [together] ⟨.recorder { recorder with
          commands := [⟨.user, .refresh, [7]⟩, together] }, later⟩) ∧
      ∃ later, handle edits ⟨.recorder recorder, []⟩ =
        .ok apart ⟨.recorder { recorder with
          commands := ⟨.user, .refresh, [7]⟩ :: apart }, later⟩ := by
  intro members edits recorder together apart
  obtain ⟨carried, handled, -⟩ := dispatch_loses_nothing members
  obtain ⟨-, edited, -⟩ := dispatch_loses_nothing edits
  obtain ⟨call, carries⟩ :=
    carried ⟨.recorder recorder, []⟩ [together] rfl together (List.mem_singleton_self _)
  refine ⟨⟨call, carries, ?_⟩, ⟨_, (handled recorder [] _ _).2 ⟨rfl, fun _ _ => rfl, rfl⟩⟩,
    ⟨_, (edited recorder [] _ _).2 ⟨rfl, fun _ _ => rfl, rfl⟩⟩⟩
  obtain rfl := Option.some.inj carries.chosen
  rfl

end Outlet

end Invalidation
