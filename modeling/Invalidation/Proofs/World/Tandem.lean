import Invalidation.Proofs.Cluster.Journal
import Invalidation.Proofs.World.Calls

/-!
# A journal beside a record

The same calls go to a recorder, which keeps all commands, and to a cluster, which keeps the last
ones in its journal. Nodes may fail, and are registered, written and read in between; but a command
is noted before it goes to any node, and neither sink keeps anything of a call that stands for no
command. So at any time the journal is the end of the record, as long as its bound allows
(`World.journal_is_tail_of_record`).
-/

set_option autoImplicit false

namespace Invalidation

/-- The bound on a journal as a value, which is `null` for none. -/
def Raw.ofBound : Option Nat → Raw
  | none => .null
  | some n => .int n

/-- Any journal can be had whose bound fits into a word, if it has one. -/
theorem Cluster.new_ofBound (batches : Raw) (bound : Option Nat) (nodes : List Node) :
    Cluster.new batches (.ofBound bound) nodes =
      if ∀ n, bound = some n → n < Reading.wordBound then .ok ⟨batches, nodes, .empty bound⟩
      else .error .boundTooLarge := by
  cases bound with
  | none =>
    rw [if_pos nofun]
    rfl
  | some n =>
    rw [Cluster.new, Raw.ofBound, journalBound_natCast]
    by_cases fits : n < Reading.wordBound
    · rw [if_pos fits, if_pos fun _ same => Option.some.inj same ▸ fits]
      rfl
    · rw [if_neg fits, if_neg fun every => fits (every n rfl)]
      rfl

def Checked.value? {α : Type} : Checked α → Option α
  | .valid value => some value
  | .faulty _ _ => none

namespace Step

def isCall : Step → Bool
  | .call _ _ _ => true
  | _ => false

/-- The call that a step makes from outside. It makes none if many keys are asked for and what is
given has no members. -/
def call? : Step → Option Call
  | .call method region argument => (Call.ofArguments method region argument).toOption
  | _ => none

def command? (step : Step) : Option Command := step.call?.bind fun made => made.read.value?

theorem isCall_of_command? {step : Step} {command : Command}
    (stands : step.command? = some command) : step.isCall = true := by
  cases step with
  | call method region argument => rfl
  | _ => cases stands

theorem filterMap_command?_filter (steps : List Step) :
    (steps.filter isCall).filterMap command? = steps.filterMap command? := by
  have same : (fun step : Step => if step.isCall = true then step.command? else none) =
      command? := by
    funext step
    split
    · rfl
    next other =>
      cases stands : step.command? with
      | none => rfl
      | some command => exact absurd (isCall_of_command? stands) other
  rw [List.filterMap_filter, same]

theorem command?_of_tendsNodes {step : Step} (tends : step.TendsNodes) : step.command? = none := by
  cases step with
  | call method region argument => exact tends.elim
  | _ => rfl

end Step

namespace World

variable {bound : Option Nat} {commands : List Command} {step : Step} {steps : List Step}
  {now : World}

theorem report_of_call? {call : Call} (made : step.call? = some call) (now : World) :
    now.report step = now.report call.step := by
  cases step with
  | call method region argument =>
    have found : (Call.ofArguments method region argument).toOption = some call := made
    cases given : Call.ofArguments method region argument with
    | error kind =>
      rw [given] at found
      cases found
    | ok other =>
      rw [given] at found
      obtain rfl : other = call := Option.some.inj found
      unfold report
      rw [perform_call given, perform_step]
  | _ => cases made

/-- A step that should make a call and makes none has no effect. -/
theorem after_report_of_no_call (calls : step.isCall = true) (idle : step.call? = none)
    (now : World) : (now.report step).after = now.quiet := by
  cases step with
  | call method region argument =>
    have opened : perform (react reactionDepth) (.call method region argument) =
        (Attempt.ofExcept ((Call.ofArguments method region argument).mapError .noMembers) >>=
          fun call => onOutlet (Outlet.take call) >>= fun _ => pure Reply.done) := rfl
    have lost : (Call.ofArguments method region argument).toOption = none := idle
    cases given : Call.ofArguments method region argument with
    | error kind =>
      unfold report
      rw [opened, given]
      rfl
    | ok other =>
      rw [given] at lost
      cases lost
  | _ => cases calls

/-- The sink is a recorder that refuses nothing and has recorded these commands. -/
def Records (commands : List Command) (now : World) : Prop :=
  ∃ recorder, now.outlet.sink = .recorder recorder ∧
    (∀ call, recorder.refuses call = .ok false) ∧ recorder.commands = commands

/-- The sink is a cluster that has noted these commands, as many of the last ones as the bound on
its journal allows. -/
def Notes (bound : Option Nat) (commands : List Command) (now : World) : Prop :=
  ∃ cluster, now.outlet.sink = .cluster cluster ∧ cluster.journal.bound = bound ∧
    cluster.journal.commands = keepLast bound commands

theorem Records.report_call (records : Records commands now) (call : Call) :
    Records (commands ++ call.read.value?.toList) (now.report call.step).after := by
  obtain ⟨recorder, here, accepts, rfl⟩ := records
  rw [World.report_call, here, Outlet.take_recorder_of_accepted (accepts call)]
  cases call.read with
  | valid command => exact ⟨recorder.record command, rfl, accepts, rfl⟩
  | faulty first more => exact ⟨recorder, rfl, accepts, (List.append_nil _).symm⟩

/-- A cluster notes the command that a call stands for, whatever becomes of it at the nodes. -/
theorem Notes.report_call (notes : Notes bound commands now) (call : Call) :
    Notes bound (commands ++ call.read.value?.toList) (now.report call.step).after := by
  obtain ⟨cluster, here, rfl, noted⟩ := notes
  rw [World.report_call, here, Outlet.take_cluster]
  cases call.read with
  | faulty first more =>
    refine ⟨cluster, rfl, rfl, ?_⟩
    rw [noted]
    simp [Checked.value?]
  | valid command =>
    have journal : (cluster.journal.record command).commands =
        keepLast cluster.journal.bound (commands ++ [command]) := by
      rw [← keepLast_keepLast_append, ← noted]
      rfl
    dsimp only
    rw [Outlet.broadcast_cluster, Cluster.broadcast_eq]
    cases (Cluster.deliver command cluster.nodes).2 with
    | none => exact ⟨_, rfl, rfl, journal⟩
    | some failure => exact ⟨_, rfl, rfl, journal⟩

theorem Notes.report_of_tendsNodes (notes : Notes bound commands now) (tends : step.TendsNodes) :
    Notes bound commands (now.report step).after := by
  obtain ⟨cluster, here, rest⟩ := notes
  have only := along_nodesOnly_perform (react reactionDepth) tends now.quiet
  rw [← after_report] at only
  generalize (now.report step).after = after at only
  cases only with
  | same => exact ⟨cluster, here, rest⟩
  | nodes nodes there =>
    obtain rfl := Sink.cluster.inj (here.symm.trans there)
    exact ⟨_, rfl, rest⟩

/-- Whatever is kept of commands, if each call adds the command that it stands for, then a step that
makes a call does. -/
theorem kept_report {kept : List Command → World → Prop}
    (rests : kept commands now → kept commands now.quiet)
    (adds : ∀ call : Call, kept (commands ++ call.read.value?.toList) (now.report call.step).after)
    (calls : step.isCall = true) (before : kept commands now) :
    kept (commands ++ step.command?.toList) (now.report step).after := by
  unfold Step.command?
  cases made : step.call? with
  | some call =>
    rw [report_of_call? made]
    exact adds call
  | none =>
    rw [after_report_of_no_call calls made, Option.bind_none, Option.toList_none, List.append_nil]
    exact rests before

/-- Whatever is kept of commands, if each step adds the command that its call stands for, then steps
one after another add these commands in order. -/
theorem kept_afterAll {kept : List Command → World → Prop} {proper : Step → Prop}
    (adds : ∀ commands now step, proper step → kept commands now →
      kept (commands ++ step.command?.toList) (now.report step).after)
    (each : ∀ step ∈ steps, proper step) (before : kept commands now) :
    kept (commands ++ steps.filterMap Step.command?) (now.afterAll steps) := by
  induction steps generalizing commands now with
  | nil =>
    rw [List.filterMap_nil, List.append_nil]
    exact before
  | cons step rest ih =>
    obtain ⟨first, others⟩ := List.forall_mem_cons.1 each
    have onward := ih others (adds commands now step first before)
    have whole : (step :: rest).filterMap Step.command? =
        step.command?.toList ++ rest.filterMap Step.command? := by
      cases stands : step.command? with
      | none => simp [stands]
      | some command => simp [stands]
    rw [whole, ← List.append_assoc]
    exact onward

theorem Records.afterAll (records : Records commands now)
    (calls : ∀ step ∈ steps, step.isCall = true) :
    Records (commands ++ steps.filterMap Step.command?) (now.afterAll steps) :=
  kept_afterAll (fun _ _ _ proper before => kept_report id before.report_call proper before) calls
    records

theorem Notes.afterAll (notes : Notes bound commands now)
    (proper : ∀ step ∈ steps, step.isCall = true ∨ step.TendsNodes) :
    Notes bound (commands ++ steps.filterMap Step.command?) (now.afterAll steps) := by
  refine kept_afterAll (fun commands now step proper before => ?_) proper notes
  rcases proper with calls | tends
  · exact kept_report id before.report_call calls before
  · rw [Step.command?_of_tendsNodes tends, Option.toList_none, List.append_nil]
    exact before.report_of_tendsNodes tends

theorem Records.report_recorded (records : Records commands now) :
    (now.report .recorded).outcome = .ok (.commands commands) := by
  obtain ⟨recorder, here, -, rfl⟩ := records
  obtain ⟨bus, binders, ⟨sink, notices⟩, program⟩ := now
  obtain rfl : sink = .recorder recorder := here
  rfl

theorem Notes.report_journal (notes : Notes bound commands now) :
    (now.report .journal).outcome = .ok (.commands (keepLast bound commands)) := by
  obtain ⟨cluster, here, -, noted⟩ := notes
  obtain ⟨bus, binders, ⟨sink, notices⟩, program⟩ := now
  obtain rfl : sink = .cluster cluster := here
  rw [← noted]
  rfl

/-- A record is asked for these commands, and a journal beside it for the last of them, as many as
its bound allows. -/
def Tandem (bound : Option Nat) (commands : List Command) (recording clustered : World) : Prop :=
  (recording.report .recorded).outcome = .ok (.commands commands) ∧
    (clustered.report .journal).outcome = .ok (.commands (keepLast bound commands))

/-- A fresh recorder and a fresh cluster get the same calls, whatever each of them leads to, and the
nodes of the cluster are registered, written and read in between. At any time the record has the
commands that the calls stand for, and the journal the last of these. The command of the next call
comes behind them in both, also if nodes fail, unless something is wrong with the call, and then
neither keeps anything of it. All this holds for any bound on the journal, of which those can be had
that fit into a word. -/
theorem journal_is_tail_of_record (bound : Option Nat) (flag batches : Raw) (nodes : List Node)
    (count : Nat) (program : String → List Step) :
    ∃ cluster,
      (Cluster.new batches (.ofBound bound) nodes =
        if ∀ n, bound = some n → n < Reading.wordBound then .ok cluster
        else .error .boundTooLarge) ∧
      cluster.nodes = nodes ∧ cluster.journal.bound = bound ∧ cluster.journal.commands = [] ∧
      ∀ steps, (∀ step ∈ steps, step.isCall = true ∨ step.TendsNodes) →
        let recording := (new (.recorder ⟨some flag, false, Recorder.acceptAll, []⟩) count
          program).afterAll (steps.filter Step.isCall)
        let clustered := (new (.cluster cluster) count program).afterAll steps
        let commands := steps.filterMap Step.command?
        Tandem bound commands recording clustered ∧
        ∀ call : Call,
          let recordingNext := (recording.report call.step).after
          let clusteredNext := (clustered.report call.step).after
          (∀ command, call.Stands command →
            Tandem bound (commands ++ [command]) recordingNext clusteredNext) ∧
          (call.faults ≠ [] → Tandem bound commands recordingNext clusteredNext) := by
  refine ⟨_, Cluster.new_ofBound batches bound nodes, rfl, rfl, rfl, ?_⟩
  intro steps proper recording clustered commands
  have fresh_record : Records [] (new (.recorder ⟨some flag, false, Recorder.acceptAll, []⟩) count
      program) := ⟨_, rfl, fun _ => rfl, rfl⟩
  have fresh_journal : Notes bound []
      (new (.cluster ⟨batches, nodes, .empty bound⟩) count program) := by
    refine ⟨_, rfl, rfl, ?_⟩
    cases bound <;> simp [keepLast, Journal.empty]
  have records : Records commands recording := by
    have calls : ∀ step ∈ steps.filter Step.isCall, step.isCall = true :=
      fun step member => (List.mem_filter.1 member).2
    have kept := fresh_record.afterAll calls
    rw [List.nil_append, Step.filterMap_command?_filter] at kept
    exact kept
  have notes : Notes bound commands clustered := fresh_journal.afterAll proper
  refine ⟨⟨records.report_recorded, notes.report_journal⟩, fun call => ⟨?_, ?_⟩⟩
  · intro command stands
    have recorded := records.report_call call
    have noted := notes.report_call call
    rw [Call.read_eq_valid_iff_stands.2 stands] at recorded noted
    exact ⟨recorded.report_recorded, noted.report_journal⟩
  · intro faulty
    have recorded := records.report_call call
    have noted := notes.report_call call
    obtain ⟨first, more, faults⟩ := List.exists_cons_of_ne_nil faulty
    rw [Call.read_eq_faulty_iff.2 faults, Checked.value?, Option.toList_none, List.append_nil]
      at recorded noted
    exact ⟨recorded.report_recorded, noted.report_journal⟩

/-- The journal has room for one command. A node that is out of reach with removals fails at the
second call, and another one is written and a third one joins; the third call names a key that is
none. -/
theorem journal_is_tail_of_record_with_far_node :
    let region : Raw := .ofWord Region.content
    let steps : List Step :=
      [.call .refresh region (.int 1), .put (.int 1) region (.int 2) .null (.int 1),
        .call .removeMany region (.list [.int 2, .bool true]), .join (.new "late" none),
        .call .refreshMany region (.list [.int 3, .null])]
    let nodes : List Node := [.new "far" (some [.remove]), .new "near" none]
    let recording := (new (.recorder ⟨some (.bool true), false, Recorder.acceptAll, []⟩) 1
      fun _ => []).afterAll (steps.filter Step.isCall)
    let clustered := (new (.cluster ⟨.bool true, nodes, .empty (some 1)⟩) 1
      fun _ => []).afterAll steps
    (∀ step ∈ steps, step.isCall = true ∨ step.TendsNodes) ∧
      steps.filterMap Step.command? = [⟨.content, .refresh, [1]⟩, ⟨.content, .remove, [2, 1]⟩] ∧
      (recording.report .recorded).outcome =
        .ok (.commands [⟨.content, .refresh, [1]⟩, ⟨.content, .remove, [2, 1]⟩]) ∧
      (clustered.report .journal).outcome = .ok (.commands [⟨.content, .remove, [2, 1]⟩]) := by
  intro region steps nodes recording clustered
  have proper : ∀ step ∈ steps, step.isCall = true ∨ step.TendsNodes := by
    simp [steps, Step.isCall, Step.TendsNodes]
  have commands : steps.filterMap Step.command? =
      [⟨.content, .refresh, [1]⟩, ⟨.content, .remove, [2, 1]⟩] := by decide
  obtain ⟨cluster, built, -, -, -, tandem⟩ := journal_is_tail_of_record (some 1) (.bool true)
    (.bool true) nodes 1 fun _ => []
  rw [Cluster.new_ofBound, if_pos (by decide), if_pos (by decide)] at built
  obtain rfl : _ = cluster := Except.ok.inj built
  obtain ⟨⟨recorded, noted⟩, -⟩ := tandem steps proper
  rw [commands] at recorded noted
  exact ⟨proper, commands, recorded, noted⟩

end World

end Invalidation
