import Invalidation.Proofs.Command.Sending

/-!
# Handling notifications on a recorder

To handle a notification ends well on a recorder exactly if it refuses none of the calls that carry
the answering commands, and then it keeps these behind what it has, and tells of the calls if it is
watched (`handle_recorder_eq_ok_iff`).
-/

set_option autoImplicit false

namespace Invalidation

namespace Recorder

def recordAll (commands : List Command) (recorder : Recorder) : Recorder :=
  { recorder with commands := recorder.commands ++ commands }

theorem recordAll_nil (recorder : Recorder) : recorder.recordAll [] = recorder := by
  simp [recordAll]

theorem recordAll_append (first second : List Command) (recorder : Recorder) :
    recorder.recordAll (first ++ second) = (recorder.recordAll first).recordAll second := by
  simp [recordAll]

/-- What a recorder tells of calls: nothing unless it is watched. -/
def tells (calls : List Call) (recorder : Recorder) : List Notice :=
  if recorder.watched then calls.map .sinkCall else []

theorem tells_nil (recorder : Recorder) : recorder.tells [] = [] := by
  unfold tells
  split <;> rfl

theorem tells_cons (call : Call) (rest : List Call) (recorder : Recorder) :
    recorder.tells (call :: rest) = recorder.tells [call] ++ recorder.tells rest := by
  unfold tells
  split <;> rfl

def refusal? (recorder : Recorder) (call : Call) : Option Failure :=
  match recorder.refuses call with
  | .error misfit => some (.misfit misfit)
  | .ok true => some (.refused call.method)
  | .ok false => none

theorem refusal?_eq_none_iff {recorder : Recorder} {call : Call} :
    recorder.refusal? call = none ↔ recorder.refuses call = .ok false := by
  unfold refusal?
  rcases recorder.refuses call with misfit | refused
  · exact iff_of_false nofun nofun
  · cases refused <;> simp

theorem recordAll_cons (command : Command) (rest : List Command) (recorder : Recorder) :
    recorder.recordAll (command :: rest) = (recorder.record command).recordAll rest := by
  simp [recordAll, record]

end Recorder

namespace Outlet

/-- What a recorder does with a call once it told of it. -/
def receive (recorder : Recorder) (call : Call) : Attempt Outlet Unit := do
  if ← Attempt.ofExcept ((recorder.refuses call).mapError .misfit) then
    throw (.refused call.method)
  let command ← Attempt.ofChecked call.read
  modify fun outlet => { outlet with sink := .recorder (recorder.record command) }

/-- Only a watched recorder tells of a call. -/
theorem take_recorder (call : Call) (recorder : Recorder) (notices : List Notice) :
    take call ⟨.recorder recorder, notices⟩ =
      receive recorder call ⟨.recorder recorder, notices ++ recorder.tells [call]⟩ := by
  obtain ⟨acceptsBatches, watched, refuses, commands⟩ := recorder
  cases watched with
  | false =>
    rw [Recorder.tells, if_neg Bool.false_ne_true, List.append_nil]
    rfl
  | true => rfl

/-- A call that is not refused is recorded as the command that it stands for. -/
theorem receive_apply (call : Call) (recorder : Recorder) (notices : List Notice) :
    receive recorder call ⟨.recorder recorder, notices⟩ =
      match recorder.refusal? call, call.read with
      | some failure, _ => .error failure ⟨.recorder recorder, notices⟩
      | none, .valid command => .ok () ⟨.recorder (recorder.record command), notices⟩
      | none, .faulty first more => .error (.invalid first more) ⟨.recorder recorder, notices⟩ := by
  unfold receive Recorder.refusal?
  rcases recorder.refuses call with misfit | refused
  · rfl
  · cases refused with
    | true => rfl
    | false => cases call.read <;> rfl

/-- A command is recorded unless the call that carries it is refused. -/
theorem dispatch_recorder {command : Command} {call : Call}
    (chosen : command.call? = some call) (reads : call.read = .valid command)
    (recorder : Recorder) (notices : List Notice) :
    dispatch command ⟨.recorder recorder, notices⟩ =
      match recorder.refusal? call with
      | some failure => .error failure ⟨.recorder recorder, notices ++ recorder.tells [call]⟩
      | none => .ok () ⟨.recorder (recorder.record command), notices ++ recorder.tells [call]⟩ := by
  unfold dispatch
  rw [chosen]
  dsimp only
  rw [take_recorder, receive_apply, reads]
  cases recorder.refusal? call <;> rfl

theorem dispatch_recorder_eq_ok_iff {command : Command} {call : Call}
    (chosen : command.call? = some call) (reads : call.read = .valid command)
    (recorder : Recorder) (notices : List Notice) (after : Outlet) :
    dispatch command ⟨.recorder recorder, notices⟩ = .ok () after ↔
      recorder.refuses call = .ok false ∧
        after = ⟨.recorder (recorder.record command), notices ++ recorder.tells [call]⟩ := by
  rw [dispatch_recorder chosen reads, ← Recorder.refusal?_eq_none_iff]
  cases recorder.refusal? call with
  | some failure => exact iff_of_false nofun nofun
  | none =>
    constructor
    · intro ended
      cases ended
      exact ⟨rfl, rfl⟩
    · rintro ⟨-, rfl⟩
      rfl

/-- Sendable commands are recorded in order unless one of the calls that carry them is refused. -/
theorem forM_dispatch_recorder_eq_ok_iff {commands : List Command}
    (sendable : ∀ command ∈ commands, command.Sendable) (recorder : Recorder)
    (notices : List Notice) (after : Outlet) :
    commands.forM dispatch ⟨.recorder recorder, notices⟩ = .ok () after ↔
      (∀ call ∈ commands.filterMap Command.call?, recorder.refuses call = .ok false) ∧
        after = ⟨.recorder (recorder.recordAll commands),
          notices ++ recorder.tells (commands.filterMap Command.call?)⟩ := by
  induction commands generalizing recorder notices with
  | nil =>
    rw [List.filterMap_nil, Recorder.tells_nil, List.append_nil, Recorder.recordAll_nil]
    constructor
    · intro ended
      cases ended
      exact ⟨nofun, rfl⟩
    · rintro ⟨-, rfl⟩
      rfl
  | cons command rest ih =>
    obtain ⟨here, others⟩ := List.forall_mem_cons.1 sendable
    obtain ⟨call, chosen, reads⟩ := Command.read_of_sendable here
    have first_iff := dispatch_recorder_eq_ok_iff chosen reads recorder notices
    rw [Attempt.forM_cons_apply, List.filterMap_cons_some chosen, List.forall_mem_cons,
      Recorder.tells_cons, ← List.append_assoc, Recorder.recordAll_cons]
    cases first : dispatch command ⟨.recorder recorder, notices⟩ with
    | ok _ between =>
      obtain ⟨accepted, rfl⟩ := (first_iff between).1 first
      refine (ih others (recorder.record command) _).trans ?_
      rw [and_iff_right accepted]
      rfl
    | error failure between =>
      refine iff_of_false nofun ?_
      rintro ⟨⟨accepted, -⟩, -⟩
      rw [(first_iff _).2 ⟨accepted, rfl⟩] at first
      cases first

/-- To handle a notification on a recorder ends well exactly if it is routed and none of the calls
that carry the commands is refused. -/
theorem handle_recorder_eq_ok_iff (event : Notification) (recorder : Recorder)
    (notices : List Notice) (commands : List Command) (after : Outlet) :
    handle event ⟨.recorder recorder, notices⟩ = .ok commands after ↔
      event.commands (Sink.recorder recorder).batches = .ok commands ∧
        (∀ call ∈ commands.filterMap Command.call?, recorder.refuses call = .ok false) ∧
          after = ⟨.recorder (recorder.recordAll commands),
            notices ++ .log (.routing event.topic event.kind commands.length) ::
              recorder.tells (commands.filterMap Command.call?)⟩ := by
  cases routed : event.commands (Sink.recorder recorder).batches with
  | error failure =>
    have refused : handle event ⟨.recorder recorder, notices⟩ = _ := handle_of_unrouted routed
    rw [refused]
    exact iff_of_false nofun nofun
  | ok answer =>
    have opened : handle event ⟨.recorder recorder, notices⟩ = _ := handle_apply routed
    rw [opened, Attempt.answering_eq_ok_iff,
      forM_dispatch_recorder_eq_ok_iff (Notification.sendable_of_commands routed),
      List.append_assoc, List.singleton_append, Except.ok.injEq]
    exact and_congr_right fun same => by rw [same]

/-- All commands that answer a notification are recorded if no call is refused. -/
theorem handle_records {event : Notification} {recorder : Recorder} {commands : List Command}
    (accepts : ∀ call, recorder.refuses call = .ok false)
    (routed : event.commands (Sink.recorder recorder).batches = .ok commands)
    (notices : List Notice) :
    ∃ later, handle event ⟨.recorder recorder, notices⟩ =
      .ok commands ⟨.recorder (recorder.recordAll commands), later⟩ :=
  ⟨_, (handle_recorder_eq_ok_iff event recorder notices commands _).2
    ⟨routed, fun call _ => accepts call, rfl⟩⟩

end Outlet

end Invalidation
