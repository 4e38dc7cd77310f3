import Mathlib.Data.List.Perm.Basic
import Invalidation.Proofs.Cluster.Handling
import Invalidation.Proofs.Command.Expansion

/-!
# Batches

One command for many keys does what commands for each of the keys do, in whatever order these come
(`Node.apply_eq_applyAll_each`). The batch walks all subtrees before it drops anything, while each
removal drops links that those behind it would follow; but both cover the same places of the node as
it was. So a call for many keys and calls for each of them leave the nodes of a cluster alike.
-/

set_option autoImplicit false

namespace Invalidation

namespace Node

/-- A command that is not for a whole region evicts what the commands for each of its keys evict. -/
theorem any_evicts_each {command : Command} (part : command.operation ≠ .refreshAll) (node : Node)
    (place : Place) :
    ((command.each command.keys).any fun one => node.evicts one place) =
      node.evicts command place := by
  have single : ∀ key,
      command.alone key = Command.single command.region command.operation key := by
    simp [Command.single, Command.alone, part]
  rw [Bool.eq_iff_iff, List.any_eq_true, evicts_iff]
  simp only [evicts_iff, Command.mem_each_iff, exists_exists_and_eq_and, single]
  exact (Command.covers_batch_iff part node.parents command.region command.keys place).symm

/-- A batch does what the commands for each of its keys do, in any order and however often. -/
theorem apply_eq_applyAll_each {command : Command} (part : command.operation ≠ .refreshAll)
    {keys : List Int} (same : ∀ key, key ∈ keys ↔ key ∈ command.keys) (node : Node) :
    node.apply command = node.applyAll (command.each keys) := by
  have members : ∀ one, one ∈ command.each keys ↔ one ∈ command.each command.keys := by
    simp [Command.mem_each_iff, same]
  have links : ∀ place, ((command.each command.keys).any fun one =>
        one.operation.unlinks && node.evicts one place) =
      (command.operation.unlinks && node.evicts command place) := by
    intro place
    rw [← any_evicts_each part, List.and_any_distrib_left]
    simp only [Command.each, List.any_map]
    rfl
  calc node.apply command = node.applyAll [command] := rfl
    _ = node.applyAll (command.each command.keys) := by
        simp only [applyAll_eq, any_evicts_each part, links, List.any_cons, List.any_nil,
          Bool.or_false]
    _ = node.applyAll (command.each keys) := (applyAll_congr members node).symm

/-- What keeps a node from carrying out the command for one of the keys keeps it from carrying out
the batch. -/
theorem failure?_alone_eq_none {command : Command} {key : Int} (member : key ∈ command.keys)
    {node : Node} (accepted : node.failure? command = none) :
    node.failure? (command.alone key) = none := by
  have named : command.keys.isEmpty = false := by
    rw [List.isEmpty_eq_false_iff]
    exact List.ne_nil_of_mem member
  have same : node.failure? (command.alone key) = node.failure? command := by
    simp [failure?, obstacle?, Command.alone, named]
  exact same.trans accepted

end Node

namespace Call

/-- The calls that name one by one the keys that a call for many keys names together. -/
def singly : Call → List Call
  | refreshMany region keys => keys.members.map (refresh region)
  | removeMany region keys => keys.members.map (remove region)
  | call => [call]

theorem forall₂_read_singly {call : Call} {command : Command}
    (many : call.method = .refreshMany ∨ call.method = .removeMany)
    (reads : call.read = .valid command) :
    List.Forall₂ (fun one alone => one.read = .valid alone) call.singly
      (command.each command.keys) := by
  obtain ⟨here, same, keys⟩ := (read_eq_valid_iff call command).1 reads
  have single : ∀ (one : Call) {raw : Raw} {key : Int}, one.region = call.region →
      one.method.operation = call.method.operation → one.keys = [raw] →
        Reading.integer raw = .valid key → one.read = .valid (command.alone key) := by
    intro one raw key region operation named reads
    rw [read_eq_valid_iff, region, operation, named]
    exact ⟨here, same, .cons reads .nil⟩
  cases call with
  | refreshMany region collection =>
    rw [singly, Command.each, List.forall₂_map_left_iff, List.forall₂_map_right_iff]
    exact keys.imp fun raw _ reads => single (refresh region raw) rfl rfl rfl reads
  | removeMany region collection =>
    rw [singly, Command.each, List.forall₂_map_left_iff, List.forall₂_map_right_iff]
    exact keys.imp fun raw _ reads => single (remove region raw) rfl rfl rfl reads
  | _ => simp [method] at many

end Call

namespace Outlet

theorem forM_take_apply {calls : List Call} {commands : List Command} {cluster : Cluster}
    (reads : List.Forall₂ (fun call command => call.read = .valid command) calls commands)
    (accepts : ∀ node ∈ cluster.nodes, node.Accepts commands) (notices : List Notice) :
    ∃ after later, calls.forM take ⟨.cluster cluster, notices⟩ = .ok () ⟨.cluster after, later⟩ ∧
      after.nodes = cluster.nodes.map (Node.applyAll commands) := by
  obtain ⟨later, taken⟩ :=
    forM_apply (reads.imp fun _ _ stands => broadcasts_take stands) cluster notices
  rw [Cluster.broadcastAll_eq_of_accepts accepts] at taken
  exact ⟨_, later, taken, rfl⟩

/-- One command for many keys leaves a node as commands for each of the keys do, in any order. So
on a cluster whose nodes do not fail a call for many keys leaves every node as calls for each of
them do. -/
theorem batch_leaves_what_each_leaves :
    (∀ (node : Node) (region : Region) (operation : Operation) (ids order : List Int),
        operation ≠ .refreshAll → order.Perm ids →
          node.apply ⟨region, operation, ids⟩ =
            node.applyAll (order.map fun id => ⟨region, operation, [id]⟩)) ∧
      ∀ (call : Call) (command : Command) (calls : List Call) (cluster : Cluster)
        (notices : List Notice),
        call.method = .refreshMany ∨ call.method = .removeMany → call.read = .valid command →
          calls.Perm call.singly → (∀ node ∈ cluster.nodes, node.failure? command = none) →
            ∃ together apart later told,
              take call ⟨.cluster cluster, notices⟩ = .ok () ⟨.cluster together, later⟩ ∧
              calls.forM take ⟨.cluster cluster, notices⟩ = .ok () ⟨.cluster apart, told⟩ ∧
              together.nodes = cluster.nodes.map (Node.apply command) ∧
              apart.nodes = together.nodes := by
  constructor
  · intro node region operation ids order part perm
    let command : Command := ⟨region, operation, ids⟩
    have batch : command.operation ≠ .refreshAll := part
    exact Node.apply_eq_applyAll_each batch (fun _ => perm.mem_iff) node
  · intro call command calls cluster notices many reads perm accepted
    have part : command.operation ≠ .refreshAll := by
      rw [← ((Call.read_eq_valid_iff call command).1 reads).2.1]
      rcases many with refreshes | removes
      · rw [refreshes]; decide
      · rw [removes]; decide
    obtain ⟨commands, apart_reads, order⟩ :=
      List.perm_comp_forall₂ perm (Call.forall₂_read_singly many reads)
    have members : ∀ one, one ∈ commands ↔ one ∈ command.each command.keys :=
      fun one => order.mem_iff
    have accepts : ∀ node ∈ cluster.nodes, node.Accepts commands := by
      intro node known
      refine Node.accepts_of_forall fun one member => ?_
      obtain ⟨key, named, rfl⟩ := Command.mem_each_iff.1 ((members one).1 member)
      exact Node.failure?_alone_eq_none named (accepted node known)
    obtain ⟨apart, told, apart_taken, apart_nodes⟩ := forM_take_apply apart_reads accepts notices
    obtain ⟨later, taken⟩ := broadcasts_take reads cluster notices
    rw [Cluster.broadcast_eq, Cluster.deliver_eq_of_accepted accepted] at taken
    have same : Node.applyAll commands = Node.apply command := by
      funext node
      rw [Node.applyAll_congr members, Node.apply_eq_applyAll_each part fun _ => Iff.rfl]
    rw [same] at apart_nodes
    exact ⟨_, apart, later, told, taken, apart_taken, rfl, apart_nodes⟩

/-- Two keys of a circle, each of them below the other one, are removed together or one by one, in
the opposite order. -/
theorem batch_leaves_what_each_leaves_in_circle :
    let region : Raw := .ofWord Region.content
    let call : Call := .removeMany region (.list [.bool true, .int 3])
    let command : Command := ⟨.content, .remove, [1, 3]⟩
    let cluster : Cluster := ⟨.bool true, [Node.circle, .new "empty" none], .empty none⟩
    call.read = .valid command ∧ (∀ node ∈ cluster.nodes, node.failure? command = none) ∧
      Node.circle.apply command =
        Node.circle.applyAll [⟨.content, .remove, [3]⟩, ⟨.content, .remove, [1]⟩] ∧
      ∃ together apart later told,
        take call ⟨.cluster cluster, []⟩ = .ok () ⟨.cluster together, later⟩ ∧
        [Call.remove region (.int 3), .remove region (.bool true)].forM take
          ⟨.cluster cluster, []⟩ = .ok () ⟨.cluster apart, told⟩ ∧
        together.nodes = cluster.nodes.map (Node.apply command) ∧
        apart.nodes = together.nodes := by
  intro region call command cluster
  have reads : call.read = .valid command :=
    (Call.read_eq_valid_iff _ _).2
      ⟨Reading.word_ofWord Region.content, rfl, .cons rfl (.cons rfl .nil)⟩
  have accepted : ∀ node ∈ cluster.nodes, node.failure? command = none := by
    intro node member
    rcases List.mem_pair.1 member with rfl | rfl
    · exact Node.circle_sound.failure?_eq_none command
    · exact (Node.Sound.new "empty").failure?_eq_none command
  obtain ⟨alone, cluster_wide⟩ := batch_leaves_what_each_leaves
  exact ⟨reads, accepted,
    alone Node.circle .content .remove [1, 3] [3, 1] (by decide) (.swap 1 3 []),
    cluster_wide call command _ cluster [] (.inr rfl) reads (.swap _ _ []) accepted⟩

end Outlet

end Invalidation
