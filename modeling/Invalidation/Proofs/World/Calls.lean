import Invalidation.Proofs.Cluster.Handling
import Invalidation.Proofs.Command.Faults
import Invalidation.Proofs.Recorder.Handling
import Invalidation.Proofs.World.Lifecycle

/-!
# Calls from outside

A sink can be called without the router, with whatever arguments. A call either stands for one
command, which is then recorded, or noted and broadcast; or something is wrong with it, and then it
is refused with all its faults and leaves everything as it was (`World.call_is_all_or_nothing`).
-/

set_option autoImplicit false

namespace Invalidation

def Collection.raw : Collection → Raw
  | list values => .list values
  | text value => .text value
  | object fields => .object fields

theorem Collection.collection?_raw (keys : Collection) : keys.raw.collection? = .ok keys := by
  cases keys <;> rfl

def Call.step : Call → Step
  | refresh region key => .call .refresh region key
  | remove region key => .call .remove region key
  | refreshBranch region key => .call .refreshBranch region key
  | refreshAll region => .call .refreshAll region .null
  | refreshMany region keys => .call .refreshMany region keys.raw
  | removeMany region keys => .call .removeMany region keys.raw

namespace Outlet

/-- A recorder that does not refuse a call records the command that it stands for, and changes
nothing if it stands for none. -/
theorem take_recorder_of_accepted {call : Call} {recorder : Recorder}
    (accepted : recorder.refuses call = .ok false) (notices : List Notice) :
    take call ⟨.recorder recorder, notices⟩ =
      match call.read with
      | .valid command =>
        .ok () ⟨.recorder (recorder.record command), notices ++ recorder.tells [call]⟩
      | .faulty first more =>
        .error (.invalid first more) ⟨.recorder recorder, notices ++ recorder.tells [call]⟩ := by
  rw [take_recorder, receive_apply, Recorder.refusal?_eq_none_iff.2 accepted]
  cases call.read <;> rfl

end Outlet

namespace World

theorem perform_call {react : Handler → Record → Attempt World Unit} {method : Method}
    {region argument : Raw} {call : Call}
    (made : Call.ofArguments method region argument = .ok call) (world : World) :
    perform react (.call method region argument) world =
      Attempt.answering .done (onOutlet (Outlet.take call) world) := by
  have opened : perform react (.call method region argument) =
      (Attempt.ofExcept ((Call.ofArguments method region argument).mapError .noMembers) >>=
        fun call => onOutlet (Outlet.take call) >>= fun _ => pure Reply.done) := rfl
  rw [opened, made]
  exact Attempt.answer_apply (onOutlet (Outlet.take call)) Reply.done world

theorem perform_step (react : Handler → Record → Attempt World Unit) (call : Call)
    (world : World) :
    perform react call.step world =
      Attempt.answering .done (onOutlet (Outlet.take call) world) := by
  cases call with
  | refreshMany region keys | removeMany region keys =>
    refine perform_call ?_ world
    rw [Call.ofArguments, Collection.collection?_raw]
    rfl
  | _ => exact perform_call rfl world

/-- A call from outside ends as it ends at the sink, and concerns nothing else. -/
theorem report_call (call : Call) (world : World) :
    world.report call.step =
      match Outlet.take call ⟨world.outlet.sink, []⟩ with
      | .ok () outlet => ⟨.ok .done, outlet.notices, { world with outlet := outlet }⟩
      | .error failure outlet =>
        ⟨.error failure, outlet.notices, { world with outlet := outlet }⟩ := by
  have silent : world.quiet.outlet = ⟨world.outlet.sink, []⟩ := rfl
  unfold report
  rw [perform_step]
  unfold onOutlet Attempt.onPart
  rw [silent]
  cases Outlet.take call ⟨world.outlet.sink, []⟩ <;> rfl

/-- A call with faults is refused with all of these, by a recorder that does not refuse it anyway as
well as by a cluster, and nothing else comes of it. A call without faults stands for one command,
which a recorder records behind all others, and which a cluster notes in its journal and hands to
its nodes. -/
theorem call_is_all_or_nothing (call : Call) (world : World) :
    let told := world.report call.step
    (call.faults ≠ [] ↔
      (∀ region : Region, call.region ≠ .ofWord region) ∨
        ∃ key ∈ call.keys, ∀ n, Reading.integer key ≠ .valid n) ∧
    (∀ recorder, world.outlet.sink = .recorder recorder → recorder.refuses call = .ok false →
      (∀ first more, call.faults = first :: more →
        told.outcome = .error (.invalid first more) ∧
        told.after = { world with outlet := ⟨.recorder recorder, told.notices⟩ }) ∧
      (call.faults = [] → ∃ command, call.Stands command ∧
        told.outcome = .ok .done ∧
        told.after = { world with outlet := ⟨.recorder { recorder with
          commands := recorder.commands ++ [command] }, told.notices⟩ })) ∧
    ∀ cluster, world.outlet.sink = .cluster cluster →
      (∀ first more, call.faults = first :: more →
        told.outcome = .error (.invalid first more) ∧
        told.after = { world with outlet := ⟨.cluster cluster, told.notices⟩ }) ∧
      (call.faults = [] → ∃ command, call.Stands command ∧ ∃ nodes failure journal,
        Cluster.Delivered command cluster.nodes nodes failure ∧
        journal.bound = cluster.journal.bound ∧
        journal.commands =
          keepLast cluster.journal.bound (cluster.journal.commands ++ [command]) ∧
        told.outcome = failure.elim (.ok .done) .error ∧
        told.after = { world with outlet := ⟨.cluster { cluster with
          nodes := nodes
          journal := journal }, told.notices⟩ }) := by
  intro told
  have ended : told = _ := report_call call world
  refine ⟨?_, ?_, ?_⟩
  · rw [Ne, Call.faults_eq_nil_iff]
    simp only [not_and_or, not_exists, not_forall, exists_prop, Ne]
  · intro recorder here accepted
    rw [here, Outlet.take_recorder_of_accepted accepted] at ended
    constructor
    · intro first more faults
      rw [Call.read_eq_faulty_iff.2 faults] at ended
      rw [ended]
      exact ⟨rfl, rfl⟩
    · intro sound
      obtain ⟨command, stands⟩ := Call.exists_stands_of_faults_eq_nil sound
      rw [Call.read_eq_valid_iff_stands.2 stands] at ended
      rw [ended]
      exact ⟨command, stands, rfl, rfl⟩
  · intro cluster here
    rw [here, Outlet.take_cluster] at ended
    constructor
    · intro first more faults
      rw [Call.read_eq_faulty_iff.2 faults] at ended
      rw [ended]
      exact ⟨rfl, rfl⟩
    · intro sound
      obtain ⟨command, stands⟩ := Call.exists_stands_of_faults_eq_nil sound
      rw [Call.read_eq_valid_iff_stands.2 stands] at ended
      dsimp only at ended
      rw [Outlet.broadcast_cluster, Cluster.broadcast_eq] at ended
      have delivered := Cluster.delivered_deliver command cluster.nodes
      generalize Cluster.deliver command cluster.nodes = result at delivered ended
      obtain ⟨nodes, failure⟩ := result
      refine ⟨command, stands, nodes, failure, cluster.journal.record command, delivered, rfl, rfl,
        ?_⟩
      rw [ended]
      cases failure with
      | none => exact ⟨rfl, rfl⟩
      | some failure => exact ⟨rfl, rfl⟩

/-- A removal that names no region and has two keys that are none is told all three faults by a
cluster. One that stands for a command is recorded with the keys as integers. -/
theorem call_is_nothing_with_bad_keys :
    let bad : Call := .removeMany (.text "Nowhere") (.list [.int 1, .null, .bool true,
      .real (1 / 2)])
    let good : Call := .removeMany (.ofWord Region.content) (.list [.int 1, .bool true])
    let recorder : Recorder := ⟨none, false, Recorder.acceptAll, [⟨.content, .refresh, [7]⟩]⟩
    let cluster : Cluster := ⟨.null, [.new "near" none], .empty none⟩
    let clustered := new (.cluster cluster) 0 fun _ => []
    let recording := new (.recorder recorder) 0 fun _ => []
    (clustered.report bad.step).outcome =
        .error (.invalid ⟨[.field "region"], .unknownWord⟩
          [⟨[.field "keys", .item 1], .notInteger⟩, ⟨[.field "keys", .item 3], .fractional⟩]) ∧
      (clustered.report bad.step).after.outlet.sink = .cluster cluster ∧
      (recording.report good.step).outcome = .ok .done ∧
      (recording.report good.step).after.outlet.sink =
        .recorder { recorder with
          commands := [⟨.content, .refresh, [7]⟩, ⟨.content, .remove, [1, 1]⟩] } := by
  intro bad good recorder cluster clustered recording
  have faults : bad.faults = ⟨[.field "region"], .unknownWord⟩ ::
      [⟨[.field "keys", .item 1], .notInteger⟩, ⟨[.field "keys", .item 3], .fractional⟩] := by
    decide +kernel
  have sound : good.faults = [] := by decide
  have read : good.Stands ⟨.content, .remove, [1, 1]⟩ :=
    Call.read_eq_valid_iff_stands.1 (by decide)
  obtain ⟨-, -, refused⟩ := call_is_all_or_nothing bad clustered
  obtain ⟨failed, unchanged⟩ := (refused cluster rfl).1 _ _ faults
  obtain ⟨-, taken, -⟩ := call_is_all_or_nothing good recording
  obtain ⟨command, stands, done, recorded⟩ := (taken recorder rfl rfl).2 sound
  have same : Checked.valid command = .valid ⟨.content, .remove, [1, 1]⟩ :=
    (Call.read_eq_valid_iff_stands.2 stands).symm.trans (Call.read_eq_valid_iff_stands.2 read)
  obtain rfl := Checked.valid.inj same
  refine ⟨failed, ?_, done, ?_⟩
  · rw [unchanged]
  · rw [recorded]
    rfl

end World

end Invalidation
