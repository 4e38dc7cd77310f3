import Mathlib.Data.Nat.Find
import Invalidation.Proofs.Cluster.Handling

/-!
# Interrupted broadcasts

A sequence of commands goes to all nodes of a cluster command by command, and each command node by
node. The first failure on that way (`Cluster.FirstStop`) ends it. The nodes in front of the one
that failed have carried out one command more than it and those behind it, and the journal holds
every command up to the one at which the node failed, that one included
(`broadcastAll_eq_of_firstStop`). Where no node fails, all nodes carry out all commands.
-/

set_option autoImplicit false

namespace Invalidation

namespace Node

/-- What keeps the node from carrying out the command at the index, when it has carried out those in
front of it. -/
def stop? (commands : List Command) (turn : Nat) (node : Node) : Option Failure :=
  commands[turn]?.bind fun command => (node.applyAll (commands.take turn)).failure? command

/-- All parents that the node keeps are keys. -/
def Keyed (node : Node) : Prop := ∀ place kind, node.links.get? place ≠ some (.unfit kind)

theorem stop?_cons_succ (command : Command) (rest : List Command) (turn : Nat) (node : Node) :
    node.stop? (command :: rest) (turn + 1) = (node.apply command).stop? rest turn := rfl

/-- A node carries commands out in turn if it stops at none of them. -/
theorem accepts_take_iff (commands : List Command) (turn : Nat) (node : Node) :
    node.Accepts (commands.take turn) ↔ ∀ earlier < turn, node.stop? commands earlier = none := by
  induction commands generalizing node turn with
  | nil => simp [Accepts, stop?]
  | cons command rest ih =>
    cases turn with
    | zero => simp [Accepts]
    | succ turn =>
      rw [List.take_succ_cons, Accepts, ih, Nat.forall_lt_succ_left']
      simp only [stop?_cons_succ]
      rfl

theorem accepts_iff_stop? (commands : List Command) (node : Node) :
    node.Accepts commands ↔ ∀ turn, node.stop? commands turn = none := by
  have whole := accepts_take_iff commands commands.length node
  rw [List.take_length] at whole
  rw [whole]
  constructor
  · intro free turn
    by_cases inside : turn < commands.length
    · exact free turn inside
    · simp [stop?, List.getElem?_eq_none (Nat.le_of_not_lt inside)]
  · exact fun free turn _ => free turn

theorem keyed_applyAll {node : Node} (keyed : node.Keyed) (commands : List Command) :
    (node.applyAll commands).Keyed := by
  intro place kind
  rw [applyAll_eq, Table.get?_drop]
  split
  · simp
  · exact keyed place kind

/-- A node that keeps only keys as parents stops exactly where it is out of reach. -/
theorem stop?_of_keyed {node : Node} (keyed : node.Keyed) (commands : List Command) (turn : Nat) :
    node.stop? commands turn = commands[turn]?.bind fun command =>
      if node.isOut command.operation then some (.unreachable node.name) else none := by
  have same : ∀ command, (node.applyAll (commands.take turn)).failure? command =
      if node.isOut command.operation then some (.unreachable node.name) else none := by
    intro command
    rw [failure?, obstacle?_of_keyed fun key => keyed_applyAll keyed _ (_, key), applyAll_eq]
    rfl
  simp only [stop?, same]

end Node

namespace Cluster

/-- The node at the place is the first to stop, at the command with the index: no node stops at an
earlier command, and none in front of it at the same one. -/
structure FirstStop (commands : List Command) (nodes : List Node) (turn place : Nat)
    (failure : Failure) : Prop where
  stops : ∃ node, nodes[place]? = some node ∧ node.stop? commands turn = some failure
  first : ∀ turn' place' node, nodes[place']? = some node → (node.stop? commands turn').isSome →
    turn < turn' ∨ turn = turn' ∧ place ≤ place'

theorem exists_firstStop {commands : List Command} {nodes : List Node}
    (stops : ∃ node ∈ nodes, ∃ turn, (node.stop? commands turn).isSome) :
    ∃ turn place failure, FirstStop commands nodes turn place failure := by
  classical
  have some_turn : ∃ turn place : Nat, ∃ node : Node, nodes[place]? = some node ∧
      (node.stop? commands turn).isSome := by
    obtain ⟨node, member, turn, stopped⟩ := stops
    obtain ⟨place, here⟩ := List.getElem?_of_mem member
    exact ⟨turn, place, node, here, stopped⟩
  have some_place := Nat.find_spec some_turn
  obtain ⟨node, here, stopped⟩ := Nat.find_spec some_place
  obtain ⟨failure, fails⟩ := Option.isSome_iff_exists.1 stopped
  refine ⟨Nat.find some_turn, Nat.find some_place, failure, ⟨node, here, fails⟩, ?_⟩
  intro turn place other there stopped
  rcases Nat.lt_or_eq_of_le (Nat.find_min' some_turn ⟨place, other, there, stopped⟩) with
    before | same
  · exact .inl before
  · exact .inr ⟨same, Nat.find_min' some_place ⟨other, there, same ▸ stopped⟩⟩

theorem deliver_append {command : Command} {front : List Node}
    (accepted : ∀ node ∈ front, node.failure? command = none) (rest : List Node) :
    deliver command (front ++ rest) =
      (front.map (Node.apply command) ++ (deliver command rest).1, (deliver command rest).2) := by
  induction front with
  | nil => rfl
  | cons node front ih =>
    have here := accepted node List.mem_cons_self
    have others := ih fun other member => accepted other (List.mem_cons_of_mem node member)
    simp only [List.cons_append, deliver, here, others, List.map_cons]

theorem deliver_of_failure {command : Command} {stuck : Node} {failure : Failure}
    (fails : stuck.failure? command = some failure) (behind : List Node) :
    deliver command (stuck :: behind) = (stuck :: behind, some failure) := by
  simp only [deliver, fails]

theorem broadcastAll_append {first : List Command} {cluster : Cluster}
    (accepts : ∀ node ∈ cluster.nodes, node.Accepts first) (second : List Command) :
    cluster.broadcastAll (first ++ second) =
      (cluster.broadcastAll first).1.broadcastAll second := by
  induction first generalizing cluster with
  | nil => rfl
  | cons command rest ih =>
    have delivered := deliver_eq_of_accepted fun node member => (accepts node member).1
    have onward : ∀ node ∈ cluster.nodes.map (Node.apply command), node.Accepts rest := by
      intro node member
      obtain ⟨before, known, rfl⟩ := List.mem_map.1 member
      exact (accepts before known).2
    rw [List.cons_append, broadcastAll, broadcastAll, broadcast_eq, delivered]
    exact ih onward

/-- Where the nodes accept the commands in front of one at which a node fails, they carry those out,
and of that one as much as `deliver` gets done. -/
theorem broadcastAll_of_failure {cluster : Cluster} {done : List Command} {command : Command}
    {front behind : List Node} {stuck : Node} {failure : Failure}
    (nodes : cluster.nodes = front ++ stuck :: behind)
    (accepts : ∀ node ∈ cluster.nodes, node.Accepts done)
    (passes : ∀ node ∈ front, (node.applyAll done).failure? command = none)
    (fails : (stuck.applyAll done).failure? command = some failure) (left : List Command) :
    cluster.broadcastAll (done ++ command :: left) =
      ({ cluster with
          nodes := front.map (Node.applyAll (done ++ [command])) ++
            (stuck :: behind).map (Node.applyAll done)
          journal := cluster.journal.recordAll (done ++ [command]) },
        some failure) := by
  have passed : ∀ node ∈ front.map (Node.applyAll done), node.failure? command = none := by
    intro node member
    obtain ⟨before, known, rfl⟩ := List.mem_map.1 member
    exact passes before known
  have onward : Node.apply command ∘ Node.applyAll done = Node.applyAll (done ++ [command]) := by
    funext node
    exact (Node.applyAll_append done [command] node).symm
  have delivered : deliver command (cluster.nodes.map (Node.applyAll done)) =
      (front.map (Node.applyAll (done ++ [command])) ++ (stuck :: behind).map (Node.applyAll done),
        some failure) := by
    rw [nodes, List.map_append, deliver_append passed, List.map_cons, deliver_of_failure fails,
      List.map_map, onward]
  rw [broadcastAll_append accepts, broadcastAll_eq_of_accepts accepts, broadcastAll, broadcast_eq,
    delivered, Journal.recordAll_append]
  rfl

variable {commands : List Command} {turn place : Nat} {failure : Failure}

/-- A cluster does with commands what its first node to stop lets it do. -/
theorem broadcastAll_of_firstStop {cluster : Cluster}
    (first : FirstStop commands cluster.nodes turn place failure) :
    cluster.broadcastAll commands =
      ({ cluster with
          nodes := (cluster.nodes.take place).map (Node.applyAll (commands.take (turn + 1))) ++
            (cluster.nodes.drop place).map (Node.applyAll (commands.take turn))
          journal := cluster.journal.recordAll (commands.take (turn + 1)) },
        some failure) := by
  obtain ⟨stuck, here, stopped⟩ := first.stops
  obtain ⟨command, asked, fails⟩ := Option.bind_eq_some_iff.1 stopped
  have not_before : ∀ {other : Node} {turn' place' : Nat}, cluster.nodes[place']? = some other →
      turn' < turn ∨ turn' = turn ∧ place' < place → other.stop? commands turn' = none := by
    intro other turn' place' there before
    by_contra stops
    have := first.first turn' place' other there (Option.isSome_iff_ne_none.2 stops)
    omega
  have accepts : ∀ node ∈ cluster.nodes, node.Accepts (commands.take turn) := by
    intro node member
    obtain ⟨place', there⟩ := List.getElem?_of_mem member
    rw [Node.accepts_take_iff]
    exact fun earlier before => not_before there (.inl before)
  have passes : ∀ node ∈ cluster.nodes.take place,
      (node.applyAll (commands.take turn)).failure? command = none := by
    intro node member
    obtain ⟨place', inside, rfl⟩ := List.mem_take_iff_getElem.1 member
    have there := List.getElem?_eq_getElem (Nat.lt_of_lt_of_le inside (Nat.min_le_right _ _))
    have free := not_before there (.inr ⟨rfl, Nat.lt_of_lt_of_le inside (Nat.min_le_left _ _)⟩)
    rwa [Node.stop?, asked] at free
  obtain ⟨in_turn, rfl⟩ := List.getElem?_eq_some_iff.1 asked
  obtain ⟨in_place, rfl⟩ := List.getElem?_eq_some_iff.1 here
  have split : commands.take turn ++ commands[turn] :: commands.drop (turn + 1) = commands := by
    rw [List.getElem_cons_drop, List.take_append_drop]
  have nodes : cluster.nodes = cluster.nodes.take place ++
      cluster.nodes[place] :: cluster.nodes.drop (place + 1) := by
    rw [List.getElem_cons_drop, List.take_append_drop]
  have told := broadcastAll_of_failure nodes accepts passes fails (commands.drop (turn + 1))
  rwa [split, ← List.take_succ_eq_append_getElem, List.getElem_cons_drop] at told

end Cluster

namespace Outlet

/-- What handling a notification leaves of a cluster whose nodes may fail, where it is answered by
`commands`. If nodes stop at some of these, one of them stops first, and with its failure the
handling ends: the nodes in front of it have carried out the commands up to the one at which it
stopped, and the others those in front of that one. Behind those in the journal stand the same
commands, the one at which the node stopped being the last. If no node stops, all of them carry out
all commands, which are the answer. A node that keeps only keys as parents stops exactly at commands
whose operation does not reach it. -/
theorem handle_stops_at_first_failure {event : Notification} {cluster : Cluster}
    {commands : List Command} (notices : List Notice)
    (routed : event.commands (Sink.cluster cluster).batches = .ok commands) :
    ((∃ node ∈ cluster.nodes, ∃ turn, (node.stop? commands turn).isSome) →
        ∃ turn place failure, Cluster.FirstStop commands cluster.nodes turn place failure) ∧
      (∀ turn place failure, Cluster.FirstStop commands cluster.nodes turn place failure →
        ∃ journal later,
          handle event ⟨.cluster cluster, notices⟩ =
            .error failure
              ⟨.cluster { cluster with
                  nodes :=
                    (cluster.nodes.take place).map (Node.applyAll (commands.take (turn + 1))) ++
                      (cluster.nodes.drop place).map (Node.applyAll (commands.take turn))
                  journal := journal },
                later⟩ ∧
          journal.bound = cluster.journal.bound ∧
          journal.commands = keepLast cluster.journal.bound
            (cluster.journal.commands ++ commands.take (turn + 1))) ∧
      ((∀ node ∈ cluster.nodes, ∀ turn, node.stop? commands turn = none) →
        ∃ journal later,
          handle event ⟨.cluster cluster, notices⟩ =
            .ok commands
              ⟨.cluster { cluster with
                  nodes := cluster.nodes.map (Node.applyAll commands)
                  journal := journal },
                later⟩ ∧
          journal.bound = cluster.journal.bound ∧
          journal.commands = keepLast cluster.journal.bound
            (cluster.journal.commands ++ commands)) ∧
      ∀ node : Node, node.Keyed → ∀ turn, node.stop? commands turn =
        commands[turn]?.bind fun command =>
          if node.isOut command.operation then some (.unreachable node.name) else none := by
  obtain ⟨route, mapped, rfl⟩ := Notification.commands_eq_ok_iff.1 routed
  obtain ⟨later, handled⟩ := handle_eq mapped cluster notices
  refine ⟨Cluster.exists_firstStop, ?_, ?_, fun node keyed => node.stop?_of_keyed keyed _⟩
  · intro turn place failure first
    rw [Cluster.broadcastAll_of_firstStop first] at handled
    exact ⟨_, later, handled, Journal.bound_recordAll _ _, Journal.commands_recordAll _ _⟩
  · intro free
    have accepts : ∀ node ∈ cluster.nodes,
        node.Accepts (route.expand (Sink.cluster cluster).batches event.payload) :=
      fun node member => (Node.accepts_iff_stop? _ _).2 (free node member)
    rw [Cluster.broadcastAll_eq_of_accepts accepts] at handled
    exact ⟨_, later, handled, Journal.bound_recordAll _ _, Journal.commands_recordAll _ _⟩

/-- The second of three nodes cannot be reached with removals, and the second of three edits of a
tree is one. Only the first node carries it out, the third edit is for no node, and the removal is
the one command that the journal has room for. -/
theorem handle_stops_at_unreachable_node :
    let event : Notification :=
      { topic := .treeChanged .content
        kind := .tree .content
        payload := .trees [⟨⟨2⟩, .refreshNode⟩, ⟨⟨3⟩, .remove⟩, ⟨⟨1⟩, .refreshBranch⟩]
        admitted := fun _ pinned => Option.some.inj pinned }
    let refresh : Command := ⟨.content, .refresh, [2]⟩
    let removal : Command := ⟨.content, .remove, [3]⟩
    let commands : List Command := [refresh, removal, ⟨.content, .refreshBranch, [1]⟩]
    let far : Node := .new "far" (some [.remove])
    let behind : Node := .new "behind" none
    let cluster : Cluster := ⟨.bool true, [Node.circle, far, behind], .empty (some 1)⟩
    event.commands (Sink.cluster cluster).batches = .ok commands ∧
      Cluster.FirstStop commands cluster.nodes 1 1 (.unreachable "far") ∧
      ∃ journal later,
        handle event ⟨.cluster cluster, []⟩ =
          .error (.unreachable "far")
            ⟨.cluster { cluster with
                nodes := [Node.circle.applyAll [refresh, removal], far.applyAll [refresh],
                  behind.applyAll [refresh]]
                journal := journal },
              later⟩ ∧
        journal.commands = [removal] := by
  intro event refresh removal commands far behind cluster
  have routed : event.commands (Sink.cluster cluster).batches = .ok commands := rfl
  obtain ⟨-, stopping, -, keyed⟩ := handle_stops_at_first_failure [] routed
  have far_keyed : far.Keyed := (Node.Sound.new "far").keyed
  have far_stops : far.stop? commands 1 = some (.unreachable "far") := keyed far far_keyed 1
  have far_once : ∀ turn, (far.stop? commands turn).isSome → turn = 1 := by
    intro turn stops
    rw [keyed far far_keyed turn] at stops
    match turn with
    | 0 => exact absurd stops (by decide)
    | 1 => rfl
    | 2 => exact absurd stops (by decide)
    | _ + 3 => exact absurd stops (by simp [commands])
  have sound : ∀ {node : Node}, node.Sound → ∀ turn, node.stop? commands turn = none :=
    fun {node} sound => (Node.accepts_iff_stop? commands node).1 (sound.accepts commands)
  have first : Cluster.FirstStop commands cluster.nodes 1 1 (.unreachable "far") := by
    refine ⟨⟨far, rfl, far_stops⟩, fun turn place node there stops => ?_⟩
    match place with
    | 0 =>
      obtain rfl : Node.circle = node := Option.some.inj there
      rw [sound Node.circle_sound turn] at stops
      cases stops
    | 1 =>
      obtain rfl : far = node := Option.some.inj there
      exact .inr ⟨(far_once turn stops).symm, Nat.le_refl 1⟩
    | 2 =>
      obtain rfl : behind = node := Option.some.inj there
      rw [sound (Node.Sound.new "behind") turn] at stops
      cases stops
    | _ + 3 => cases there
  obtain ⟨journal, later, handled, -, kept⟩ := stopping 1 1 _ first
  exact ⟨routed, first, journal, later, handled, kept⟩

end Outlet

end Invalidation
