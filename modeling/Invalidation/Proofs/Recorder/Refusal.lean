import Mathlib.Data.List.Forall2
import Invalidation.Proofs.Command.Carriage

/-!
# Refused calls

A recorder may refuse calls, each for what its method is and what keys it names. Then the commands
in front of the first refused call are recorded, that call is the last one made, and its failure is
that of the handling (`Outlet.handle_is_cut_at_first_refusal`).
-/

set_option autoImplicit false

namespace Invalidation

/-- The call carries the command, and stands for it. -/
structure Command.SentBy (command : Command) (call : Call) : Prop where
  chosen : command.call? = some call
  reads : call.read = .valid command
  /-- A method for many keys is chosen if there is more than one, and only then. -/
  many : call.method = .refreshMany ∨ call.method = .removeMany ↔ 2 ≤ command.keys.length

/-- More than one key goes to a method for many. -/
theorem Command.many_of_call? {command : Command} {call : Call} (sendable : command.Sendable)
    (chosen : command.call? = some call) (several : 2 ≤ command.keys.length) :
    call.method = .refreshMany ∨ call.method = .removeMany := by
  obtain ⟨region, operation, keys⟩ := command
  cases operation with
  | refreshAll =>
    obtain rfl : keys = [] := sendable
    cases several
  | refreshBranch =>
    obtain ⟨key, rfl⟩ : ∃ key, keys = [key] := sendable
    simp at several
  | refresh | remove =>
    rcases keys with _ | ⟨key, _ | ⟨next, rest⟩⟩
    · cases several
    · simp at several
    · obtain rfl := Option.some.inj chosen
      simp [Call.method]

theorem Command.exists_sentBy {command : Command} (sendable : command.Sendable) :
    ∃ call, command.SentBy call := by
  obtain ⟨call, chosen, reads⟩ := Command.read_of_sendable sendable
  exact ⟨call, chosen, reads, Command.two_le_length_of_call? chosen,
    Command.many_of_call? sendable chosen⟩

theorem Command.exists_forall₂_sentBy {commands : List Command}
    (sendable : ∀ command ∈ commands, command.Sendable) :
    ∃ calls, List.Forall₂ Command.SentBy commands calls := by
  induction commands with
  | nil => exact ⟨[], .nil⟩
  | cons command rest ih =>
    obtain ⟨here, others⟩ := List.forall_mem_cons.1 sendable
    obtain ⟨call, sent⟩ := Command.exists_sentBy here
    obtain ⟨calls, behind⟩ := ih others
    exact ⟨call :: calls, .cons sent behind⟩

theorem Command.filterMap_call?_of_sentBy {commands : List Command} {calls : List Call}
    (sent : List.Forall₂ Command.SentBy commands calls) :
    commands.filterMap Command.call? = calls := by
  induction sent with
  | nil => rfl
  | cons here _ ih => rw [List.filterMap_cons_some here.chosen, ih]

theorem Command.SentBy.method_of_single {command : Command} {call : Call}
    (sent : command.SentBy call)
    (part : command.operation = .refresh ∨ command.operation = .remove)
    (single : command.keys.length = 1) : call.method = .refresh ∨ call.method = .remove := by
  have few : ¬(call.method = .refreshMany ∨ call.method = .removeMany) := by
    rw [sent.many]
    omega
  obtain ⟨-, operation, -⟩ := (Call.read_eq_valid_iff call command).1 sent.reads
  rw [← operation] at part
  cases method : call.method with
  | refresh => exact .inl rfl
  | remove => exact .inr rfl
  | refreshMany | removeMany => simp [method] at few
  | refreshBranch | refreshAll => simp [method, Method.operation] at part

namespace Recorder

/-- The call at the index is the first one that the recorder refuses. -/
structure FirstRefusal (recorder : Recorder) (calls : List Call) (turn : Nat)
    (failure : Failure) : Prop where
  refused : ∃ call, calls[turn]? = some call ∧ recorder.refusal? call = some failure
  first : ∀ earlier < turn, ∀ call, calls[earlier]? = some call → recorder.refusal? call = none

variable {recorder : Recorder} {call : Call} {calls : List Call} {turn : Nat} {failure : Failure}

theorem exists_firstRefusal (refused : ∃ call ∈ calls, recorder.refusal? call ≠ none) :
    ∃ turn failure, recorder.FirstRefusal calls turn failure := by
  induction calls with
  | nil =>
    obtain ⟨_, member, -⟩ := refused
    cases member
  | cons call rest ih =>
    cases here : recorder.refusal? call with
    | some failure => exact ⟨0, failure, ⟨call, rfl, here⟩, nofun⟩
    | none =>
      obtain ⟨other, member, stops⟩ := refused
      rcases List.mem_cons.1 member with rfl | behind
      · exact absurd here stops
      · obtain ⟨turn, failure, later, first⟩ := ih ⟨other, behind, stops⟩
        refine ⟨turn + 1, failure, later, ?_⟩
        intro earlier before known there
        cases earlier with
        | zero =>
          obtain rfl := Option.some.inj there
          exact here
        | succ earlier => exact first earlier (Nat.lt_of_succ_lt_succ before) known there

/-- The first call is taken if a later one is the first to be refused, which what is recorded in
between has no influence on. -/
theorem FirstRefusal.tail (first : recorder.FirstRefusal (call :: calls) (turn + 1) failure)
    (command : Command) :
    recorder.refusal? call = none ∧
      (recorder.record command).FirstRefusal calls turn failure :=
  ⟨first.first 0 (Nat.succ_pos turn) call rfl, first.refused,
    fun earlier before => first.first (earlier + 1) (Nat.succ_lt_succ before)⟩

end Recorder

namespace Outlet

variable {commands : List Command} {calls : List Call} {turn : Nat} {failure : Failure}

/-- The loop over the commands ends at the first call that is refused. -/
theorem forM_dispatch_of_firstRefusal {recorder : Recorder}
    (sent : List.Forall₂ Command.SentBy commands calls)
    (first : recorder.FirstRefusal calls turn failure) (notices : List Notice) :
    commands.forM dispatch ⟨.recorder recorder, notices⟩ =
      .error failure ⟨.recorder (recorder.recordAll (commands.take turn)),
        notices ++ recorder.tells (calls.take (turn + 1))⟩ := by
  induction sent generalizing recorder turn notices with
  | nil =>
    obtain ⟨_, there, -⟩ := first.refused
    cases there
  | @cons command call commands calls here _ ih =>
    rw [Attempt.forM_cons_apply, dispatch_recorder here.chosen here.reads]
    cases turn with
    | zero =>
      obtain ⟨_, there, refused⟩ := first.refused
      obtain rfl := Option.some.inj there
      rw [refused, List.take_zero, Recorder.recordAll_nil]
      rfl
    | succ turn =>
      -- The first call is taken, so the rest of the loop runs on a recorder with one more command.
      obtain ⟨accepted, later⟩ := first.tail command
      have onward := ih later (notices ++ recorder.tells [call])
      rw [accepted, List.take_succ_cons, List.take_succ_cons, Recorder.recordAll_cons,
        Recorder.tells_cons call (calls.take (turn + 1)), ← List.append_assoc]
      exact onward

variable {event : Notification} {recorder : Recorder}

theorem handle_of_firstRefusal
    (routed : event.commands (Sink.recorder recorder).batches = .ok commands)
    (sent : List.Forall₂ Command.SentBy commands calls)
    (first : recorder.FirstRefusal calls turn failure) (notices : List Notice) :
    handle event ⟨.recorder recorder, notices⟩ =
      .error failure ⟨.recorder (recorder.recordAll (commands.take turn)),
        notices ++ .log (.routing event.topic event.kind commands.length) ::
          recorder.tells (calls.take (turn + 1))⟩ := by
  have opened : handle event ⟨.recorder recorder, notices⟩ = _ := handle_apply routed
  rw [opened, forM_dispatch_of_firstRefusal sent first, List.append_assoc, List.singleton_append]
  rfl

theorem handle_of_accepted
    (routed : event.commands (Sink.recorder recorder).batches = .ok commands)
    (sent : List.Forall₂ Command.SentBy commands calls)
    (accepted : ∀ call ∈ calls, recorder.refusal? call = none) (notices : List Notice) :
    handle event ⟨.recorder recorder, notices⟩ =
      .ok commands ⟨.recorder (recorder.recordAll commands),
        notices ++ .log (.routing event.topic event.kind commands.length) ::
          recorder.tells calls⟩ := by
  refine (handle_recorder_eq_ok_iff event recorder notices commands _).2 ⟨routed, ?_, ?_⟩
  · rw [Command.filterMap_call?_of_sentBy sent]
    exact fun call member => Recorder.refusal?_eq_none_iff.1 (accepted call member)
  · rw [Command.filterMap_call?_of_sentBy sent]

theorem route_eq_error_iff {event : Notification} {outlet after : Outlet} {failure : Failure} :
    route event outlet = .error failure after ↔
      event.commands outlet.sink.batches = .error failure ∧ after = outlet := by
  rw [route_apply]
  cases event.commands outlet.sink.batches with
  | ok commands => exact iff_of_false nofun nofun
  | error other =>
    constructor
    · intro ended
      cases ended
      exact ⟨rfl, rfl⟩
    · rintro ⟨same, rfl⟩
      cases same
      rfl

/-- Members that are answered together are answered by one call, whose method is for many of them
if there is more than one. -/
theorem sentBy_of_members {event : Notification} {batches : Bool}
    (routed : event.commands batches = .ok commands) (members : event.kind = .item .member)
    (together : batches = true) (sent : List.Forall₂ Command.SentBy commands calls) :
    ∀ call ∈ calls, calls = [call] ∧ ∃ operation,
      Command.SentBy ⟨.member, operation, event.payload.ids⟩ call ∧
        (operation = .refresh ∨ operation = .remove) := by
  intro call made
  obtain ⟨route, mapped, rfl⟩ := Notification.commands_eq_ok_iff.1 routed
  obtain ⟨change, -, found⟩ := Notification.find?_of_route? mapped
  have batch := (Route.shape_eq_batch_iff found).2 members
  have operation := Route.operation_of_find? found (by rw [batch]; decide)
  have region : route.region = .member := by
    rw [members] at found
    exact Route.region_of_item found
  by_cases none_there : event.payload.ids = []
  · rw [Route.expand_of_nil none_there] at sent
    cases sent
    cases made
  · rw [together, Route.expand_of_batch none_there batch, region] at sent
    cases sent with
    | cons here behind =>
      cases behind
      obtain rfl := List.mem_singleton.1 made
      refine ⟨rfl, route.operation, here, ?_⟩
      rw [operation]
      split
      · exact .inr rfl
      · exact .inl rfl

/-- A notification that is not routed is not handled, without a call. Otherwise each command is
carried by one call, whose method is for many keys exactly if there are more than one. If calls are
refused, one of them is the first: its failure is that of the handling, it is the last call that is
made, and the commands in front of it are recorded. If no call is refused, all are made and all
commands are recorded. Where members are answered together, the one call that can be refused is that
for all of them. -/
theorem handle_is_cut_at_first_refusal (event : Notification) (recorder : Recorder)
    (notices : List Notice) :
    let outlet : Outlet := ⟨.recorder recorder, notices⟩
    (∀ failure after, route event outlet = .error failure after →
      failure = .unrouted event.change? event.kind ∧
        handle event outlet = .error failure outlet) ∧
    ∀ commands after, route event outlet = .ok commands after →
      ∃ calls, List.Forall₂ Command.SentBy commands calls ∧
        ((∃ call ∈ calls, recorder.refusal? call ≠ none) →
          ∃ turn failure, recorder.FirstRefusal calls turn failure) ∧
        (∀ turn failure, recorder.FirstRefusal calls turn failure →
          handle event outlet =
            .error failure ⟨.recorder { recorder with
                commands := recorder.commands ++ commands.take turn },
              notices ++ .log (.routing event.topic event.kind commands.length) ::
                recorder.tells (calls.take (turn + 1))⟩) ∧
        ((∀ call ∈ calls, recorder.refusal? call = none) →
          handle event outlet =
            .ok commands ⟨.recorder { recorder with commands := recorder.commands ++ commands },
              notices ++ .log (.routing event.topic event.kind commands.length) ::
                recorder.tells calls⟩) ∧
        (event.kind = .item .member → outlet.sink.batches = true →
          ∀ failure later, handle event outlet = .error failure later →
            ∃ call operation, calls = [call] ∧
              Command.SentBy ⟨.member, operation, event.payload.ids⟩ call ∧
              recorder.refusal? call = some failure ∧
              (event.payload.ids.length = 1 → call.method = .refresh ∨ call.method = .remove) ∧
              (1 < event.payload.ids.length →
                call.method = .refreshMany ∨ call.method = .removeMany)) := by
  intro outlet
  refine ⟨?_, ?_⟩
  · intro failure after unrouted
    obtain ⟨refused, -⟩ := route_eq_error_iff.1 unrouted
    refine ⟨?_, handle_of_unrouted refused⟩
    unfold Notification.commands at refused
    cases mapped : event.route? with
    | some route =>
      rw [mapped] at refused
      cases refused
    | none =>
      rw [mapped] at refused
      exact (Except.error.inj refused).symm
  · intro commands after routed
    obtain ⟨answered, -⟩ := route_eq_ok_iff.1 routed
    obtain ⟨calls, sent⟩ :=
      Command.exists_forall₂_sentBy (Notification.sendable_of_commands answered)
    have cut := fun turn failure (first : recorder.FirstRefusal calls turn failure) =>
      handle_of_firstRefusal answered sent first notices
    have whole := fun accepted => handle_of_accepted answered sent accepted notices
    refine ⟨calls, sent, Recorder.exists_firstRefusal, cut, whole, ?_⟩
    intro members together failure later failed
    by_cases refused : ∃ call ∈ calls, recorder.refusal? call ≠ none
    · obtain ⟨turn, other, first⟩ := Recorder.exists_firstRefusal refused
      rw [cut turn other first] at failed
      cases failed
      obtain ⟨call, there, stops⟩ := first.refused
      obtain ⟨alone, operation, carried, part⟩ :=
        sentBy_of_members answered members together sent call (List.mem_of_getElem? there)
      exact ⟨call, operation, alone, carried, stops, carried.method_of_single part,
        carried.many.2⟩
    · have accepted : ∀ call ∈ calls, recorder.refusal? call = none := by
        simpa using refused
      rw [whole accepted] at failed
      cases failed

/-- The second of three edits of a tree is a removal of the one key whose removal is refused. As it
is also one of three members, their removal is refused where members are removed together. No
language changes in trees. -/
theorem handle_is_cut_at_refused_removal :
    let edits : Notification :=
      { topic := .treeChanged .content
        kind := .tree .content
        payload := .trees [⟨⟨2⟩, .refreshNode⟩, ⟨⟨3⟩, .remove⟩, ⟨⟨1⟩, .refreshBranch⟩]
        admitted := fun _ pinned => Option.some.inj pinned }
    let members : Notification :=
      { topic := .deleted .member
        kind := .item .member
        payload := .entities [⟨5⟩, ⟨3⟩, ⟨5⟩]
        admitted := fun _ pinned => Option.some.inj pinned }
    let stray : Notification :=
      { topic := .family .treeChanged
        kind := .item .language
        payload := .trees [⟨⟨2⟩, .remove⟩]
        admitted := fun _ pinned => by cases pinned }
    let content : Raw := .ofWord Region.content
    let prior : Command := ⟨.user, .refresh, [7]⟩
    let apart : Recorder := ⟨none, true, Recorder.refusing .remove (some (.int 3)), [prior]⟩
    let together : Recorder :=
      ⟨some (.bool true), true, Recorder.refusing .removeMany (some (.int 3)), [prior]⟩
    handle edits ⟨.recorder apart, []⟩ =
        .error (.refused .remove)
          ⟨.recorder { apart with commands := [prior, ⟨.content, .refresh, [2]⟩] },
            [.log (.routing (.treeChanged .content) (.tree .content) 3),
              .sinkCall (.refresh content (.int 2)), .sinkCall (.remove content (.int 3))]⟩ ∧
      (∃ after, handle members ⟨.recorder together, []⟩ =
        .error (.refused .removeMany) ⟨.recorder together, after⟩) ∧
      handle stray ⟨.recorder apart, []⟩ =
        .error (.unrouted (some .treeChanged) (.item .language)) ⟨.recorder apart, []⟩ := by
  intro edits members stray content prior apart together
  obtain ⟨-, edited⟩ := handle_is_cut_at_first_refusal edits apart []
  obtain ⟨-, removed⟩ := handle_is_cut_at_first_refusal members together []
  obtain ⟨lost, -⟩ := handle_is_cut_at_first_refusal stray apart []
  refine ⟨?_, ?_, (lost _ _ rfl).2⟩
  · obtain ⟨calls, sent, -, cut, -⟩ := edited _ _ rfl
    obtain rfl := Command.filterMap_call?_of_sentBy sent
    refine cut 1 (.refused .remove) ⟨⟨_, rfl, rfl⟩, ?_⟩
    intro earlier before call there
    obtain rfl : earlier = 0 := by omega
    obtain rfl := Option.some.inj there
    rfl
  · obtain ⟨calls, sent, -, cut, -⟩ := removed _ _ rfl
    obtain rfl := Command.filterMap_call?_of_sentBy sent
    have refused : together.refusal? (.removeMany (.ofWord Region.member)
        (.list [.int 5, .int 3, .int 5])) = some (.refused .removeMany) := by decide
    exact ⟨_, cut 0 _ ⟨⟨_, rfl, refused⟩, nofun⟩⟩

end Outlet

end Invalidation
