import Invalidation.Dispatch
import Invalidation.Proofs.Record.RoundTrip

/-!
# Sending commands through calls

A sink never sees a command but a call, from which it reads a command again. For the commands that
routes produce nothing is lost on that way: each of them is `Sendable`
(`Notification.sendable_of_commands`), and the one call that carries a sendable command out reads as
that very command (`read_of_sendable`). To handle a notification is therefore to dispatch what
answers it, whatever the sink is (`handle_apply`).
-/

set_option autoImplicit false

namespace Invalidation

open Reading

/-- One call can carry the command: the refresh of a region names no key, that of a branch exactly
one, and any other command at least one. -/
def Command.Sendable (command : Command) : Prop :=
  match command.operation with
  | .refreshAll => command.keys = []
  | .refreshBranch => ∃ key, command.keys = [key]
  | .refresh | .remove => command.keys ≠ []

/-- A call reads as a command if its region, its method and its keys, one by one, stand for those of
the command. -/
theorem Call.read_eq_valid_iff (call : Call) (command : Command) :
    call.read = .valid command ↔
      word call.region = .valid command.region ∧ call.method.operation = command.operation ∧
        List.Forall₂ (fun raw key => integer raw = .valid key) call.keys command.keys := by
  have fields : call.read =
      ((Checked.below (.field "region") (word call.region)).both
        ((Checked.below (.field "operation") (word (.ofWord call.method.operation))).both
          (Checked.below (.field "keys") (items integer 0 call.keys)))).map
        fun p => ⟨p.1, p.2.1, p.2.2⟩ := rfl
  rw [fields, Checked.map_eq_valid_iff, word_ofWord]
  simp only [Checked.both_eq_valid_iff, Checked.below_eq_valid_iff, items_eq_valid_iff,
    Checked.valid.injEq, Prod.exists]
  constructor
  · rintro ⟨region, operation, keys, ⟨here, rfl, reads⟩, rfl⟩
    exact ⟨here, rfl, reads⟩
  · rintro ⟨here, same, reads⟩
    exact ⟨command.region, command.operation, command.keys, ⟨here, same, reads⟩, rfl⟩

/-- The call that carries out a sendable command reads as that command. -/
theorem Command.read_of_sendable {command : Command} (sendable : command.Sendable) :
    ∃ call, command.call? = some call ∧ call.read = .valid command := by
  obtain ⟨region, operation, keys⟩ := command
  suffices carried : ∃ call, Command.call? ⟨region, operation, keys⟩ = some call ∧
      Call.read call = Command.read (Command.dump ⟨region, operation, keys⟩) by
    obtain ⟨call, chosen, same⟩ := carried
    exact ⟨call, chosen, same.trans (Command.read_dump _)⟩
  cases operation with
  | refreshAll =>
    obtain rfl : keys = [] := sendable
    exact ⟨_, rfl, rfl⟩
  | refreshBranch =>
    obtain ⟨key, rfl⟩ : ∃ key, keys = [key] := sendable
    exact ⟨_, rfl, rfl⟩
  | refresh | remove =>
    match keys with
    | [] => exact absurd rfl sendable
    | [key] => exact ⟨_, rfl, rfl⟩
    | key :: next :: rest => exact ⟨_, rfl, rfl⟩

theorem Command.sendable_single (region : Region) (operation : Operation) (id : Int) :
    (Command.single region operation id).Sendable := by
  cases operation <;> simp [Sendable, single]

theorem ItemKind.operation_route {kind : ItemKind} {operation : Operation}
    (part : (kind.route operation).shape ≠ .region) :
    (kind.route operation).operation = operation := by
  cases kind with
  | publicAccessEntry => exact absurd rfl part
  | _ => rfl

/-- A route that does not take the region as a whole removes after deletions and else refreshes. -/
theorem Route.operation_of_find? {change : Change} {kind : Kind} {route : Route}
    (found : Route.find? change kind = some route) (part : route.shape ≠ .region) :
    route.operation = if change = .deleted then .remove else .refresh := by
  unfold find? at found
  split at found
  · obtain rfl := Option.some.inj found
    exact ItemKind.operation_route part
  · obtain rfl := Option.some.inj found
    exact ItemKind.operation_route part
  · obtain rfl := Option.some.inj found
    rfl
  · obtain rfl := Option.some.inj found
    rfl
  · cases found

/-- Every command that a route produces can be carried by one call. -/
theorem Route.sendable_of_expand {change : Change} {kind : Kind} {route : Route} {form : Form}
    {batches : Bool} {payload : Payload form} {command : Command}
    (found : Route.find? change kind = some route)
    (produced : command ∈ route.expand batches payload) : command.Sendable := by
  have single : command ∈ ((payload.steps route.operation).map fun step =>
      Command.single route.region step.1 step.2) → command.Sendable := by
    intro member
    obtain ⟨step, _, rfl⟩ := List.mem_map.1 member
    exact Command.sendable_single route.region step.1 step.2
  unfold expand at produced
  split at produced
  · cases produced
  next some_ids =>
    split at produced
    · obtain rfl := List.mem_singleton.1 produced
      rfl
    next batch =>
      split at produced
      · obtain rfl := List.mem_singleton.1 produced
        have named : payload.ids ≠ [] := by simpa using some_ids
        have part : route.shape ≠ .region := by rw [batch]; decide
        rw [Route.operation_of_find? found part]
        by_cases deleted : change = .deleted
        · simpa [Command.Sendable, deleted] using named
        · simpa [Command.Sendable, deleted] using named
      · exact single produced
    all_goals exact single produced

theorem Notification.sendable_of_commands {event : Notification} {batches : Bool}
    {commands : List Command} (routed : event.commands batches = .ok commands) :
    ∀ command ∈ commands, command.Sendable := by
  obtain ⟨route, mapped, rfl⟩ := Notification.commands_eq_ok_iff.1 routed
  obtain ⟨change, _, found⟩ := Option.bind_eq_some_iff.1 mapped
  exact fun command member => Route.sendable_of_expand found member

namespace Outlet

theorem handle_of_unrouted {event : Notification} {outlet : Outlet} {failure : Failure}
    (unrouted : event.commands outlet.sink.batches = .error failure) :
    handle event outlet = .error failure outlet := by
  have opened : handle event outlet =
      (Attempt.ofExcept (event.commands outlet.sink.batches) >>= fun commands =>
        note (.log (.routing event.topic event.kind commands.length)) >>= fun _ =>
          commands.forM dispatch >>= fun _ => pure commands) outlet := rfl
  rw [opened, unrouted]
  rfl

/-- The commands that answer a notification are logged and dispatched in order. -/
theorem handle_apply {event : Notification} {outlet : Outlet} {commands : List Command}
    (routed : event.commands outlet.sink.batches = .ok commands) :
    handle event outlet =
      Attempt.answering commands (commands.forM dispatch { outlet with notices :=
        outlet.notices ++ [.log (.routing event.topic event.kind commands.length)] }) := by
  have opened : handle event outlet =
      (Attempt.ofExcept (event.commands outlet.sink.batches) >>= fun commands =>
        note (.log (.routing event.topic event.kind commands.length)) >>= fun _ =>
          commands.forM dispatch >>= fun _ => pure commands) outlet := rfl
  rw [opened, routed]
  exact Attempt.answer_apply (commands.forM dispatch) commands { outlet with notices :=
    outlet.notices ++ [.log (.routing event.topic event.kind commands.length)] }

end Outlet

end Invalidation
