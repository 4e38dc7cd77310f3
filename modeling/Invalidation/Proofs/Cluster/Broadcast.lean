import Mathlib.Data.List.Forall2
import Invalidation.Proofs.Cluster.Journal
import Invalidation.Proofs.Node.Sequence

/-!
# Broadcasting a sequence of commands

A cluster that broadcasts commands in order stops at the first that a node does not carry out.
It gets to the end exactly if every node accepts the whole sequence, and then every node has carried
it out (`broadcastAll_eq_of_accepts`, `accepts_of_broadcastAll`). Wherever it stops, every node has
carried out the commands up to some point and failed at none of these (`reaches_broadcastAll`).
-/

set_option autoImplicit false

namespace Invalidation

/-- The node has carried out the commands up to some point and failed at none of these. -/
def Node.Reaches (commands : List Command) (before after : Node) : Prop :=
  ∃ done rest, commands = done ++ rest ∧ before.Accepts done ∧ after = before.applyAll done

theorem Node.Reaches.refl (commands : List Command) (node : Node) : node.Reaches commands node :=
  ⟨[], commands, rfl, trivial, rfl⟩

theorem Node.Reaches.cons {command : Command} {rest : List Command} {before after : Node}
    (accepted : before.failure? command = none)
    (onward : (before.apply command).Reaches rest after) :
    before.Reaches (command :: rest) after := by
  obtain ⟨done, left, rfl, accepts, rfl⟩ := onward
  exact ⟨command :: done, left, rfl, ⟨accepted, accepts⟩, rfl⟩

namespace Cluster

/-- Broadcasts commands in order, up to the first that a node does not carry out. -/
def broadcastAll : List Command → Cluster → Cluster × Option Failure
  | [], cluster => (cluster, none)
  | command :: rest, cluster =>
    match cluster.broadcast command with
    | (after, none) => broadcastAll rest after
    | (after, some failure) => (after, some failure)

theorem deliver_eq_of_accepted {command : Command} {nodes : List Node}
    (accepted : ∀ node ∈ nodes, node.failure? command = none) :
    deliver command nodes = (nodes.map (Node.apply command), none) := by
  induction nodes with
  | nil => rfl
  | cons node rest ih =>
    have first := accepted node List.mem_cons_self
    have others := ih fun other member => accepted other (List.mem_cons_of_mem node member)
    simp only [deliver, first, others, List.map_cons]

/-- A delivery that fails on the way has reached the nodes in front and left the others alone. -/
theorem deliver_forall₂ (command : Command) (nodes : List Node) :
    List.Forall₂ (fun before after =>
        after = before ∨ before.failure? command = none ∧ after = before.apply command)
      nodes (deliver command nodes).1 := by
  induction nodes with
  | nil => exact .nil
  | cons node rest ih =>
    unfold deliver
    split
    · exact List.forall₂_same.2 fun _ _ => .inl rfl
    next first => exact .cons (.inr ⟨first, rfl⟩) ih

/-- A command went to nodes in order. Either all of them carried it out, or it got no further than
to the first that failed. -/
inductive Delivered (command : Command) : List Node → List Node → Option Failure → Prop where
  | all {nodes : List Node} (accepted : ∀ node ∈ nodes, node.failure? command = none) :
      Delivered command nodes (nodes.map (Node.apply command)) none
  | stopped (front behind : List Node) {stuck : Node} {failure : Failure}
      (accepted : ∀ node ∈ front, node.failure? command = none)
      (fails : stuck.failure? command = some failure) :
      Delivered command (front ++ stuck :: behind)
        (front.map (Node.apply command) ++ stuck :: behind) (some failure)

theorem Delivered.cons {command : Command} {node : Node} {nodes after : List Node}
    {failure : Option Failure} (accepted : node.failure? command = none)
    (onward : Delivered command nodes after failure) :
    Delivered command (node :: nodes) (node.apply command :: after) failure := by
  cases onward with
  | all others => exact .all (List.forall_mem_cons.2 ⟨accepted, others⟩)
  | stopped front behind others fails =>
    exact .stopped (node :: front) behind (List.forall_mem_cons.2 ⟨accepted, others⟩) fails

theorem delivered_deliver (command : Command) (nodes : List Node) :
    Delivered command nodes (deliver command nodes).1 (deliver command nodes).2 := by
  induction nodes with
  | nil => exact .all (by simp)
  | cons node rest ih =>
    unfold deliver
    split
    next failure fails => exact .stopped [] rest (by simp) fails
    next accepted => exact ih.cons accepted

theorem accepted_of_deliver {command : Command} {nodes : List Node}
    (delivered : (deliver command nodes).2 = none) :
    ∀ node ∈ nodes, node.failure? command = none := by
  have told := delivered_deliver command nodes
  rw [delivered] at told
  generalize (deliver command nodes).1 = after at told
  cases told with
  | all accepted => exact accepted

theorem broadcast_eq (command : Command) (cluster : Cluster) :
    cluster.broadcast command =
      ({ cluster with
          nodes := (deliver command cluster.nodes).1
          journal := cluster.journal.record command },
        (deliver command cluster.nodes).2) := rfl

theorem broadcastAll_eq_of_accepts {commands : List Command} {cluster : Cluster}
    (accepts : ∀ node ∈ cluster.nodes, node.Accepts commands) :
    cluster.broadcastAll commands =
      ({ cluster with
          nodes := cluster.nodes.map (Node.applyAll commands)
          journal := cluster.journal.recordAll commands },
        none) := by
  induction commands generalizing cluster with
  | nil =>
    have unchanged : Node.applyAll [] = id := rfl
    rw [broadcastAll, unchanged, List.map_id]
    rfl
  | cons command rest ih =>
    have delivered := deliver_eq_of_accepted fun node member => (accepts node member).1
    have onward : ∀ node ∈ cluster.nodes.map (Node.apply command), node.Accepts rest := by
      intro node member
      obtain ⟨before, known, rfl⟩ := List.mem_map.1 member
      exact (accepts before known).2
    rw [broadcastAll, broadcast_eq, delivered]
    refine (ih onward).trans ?_
    rw [List.map_map]
    rfl

/-- A sequence that is broadcast to its end is accepted by every node. -/
theorem accepts_of_broadcastAll {commands : List Command} {cluster : Cluster}
    (finished : (cluster.broadcastAll commands).2 = none) :
    ∀ node ∈ cluster.nodes, node.Accepts commands := by
  induction commands generalizing cluster with
  | nil => exact fun _ _ => trivial
  | cons command rest ih =>
    rw [broadcastAll, broadcast_eq] at finished
    split at finished
    next after stopped =>
      obtain ⟨rfl, delivered⟩ := Prod.mk.inj stopped
      have accepted := accepted_of_deliver delivered
      intro node member
      refine ⟨accepted node member, ih finished _ ?_⟩
      rw [deliver_eq_of_accepted accepted]
      exact List.mem_map_of_mem member
    · cases finished

/-- Wherever a broadcast ends, every node has carried out the commands up to some point. -/
theorem reaches_broadcastAll (commands : List Command) (cluster : Cluster) :
    List.Forall₂ (Node.Reaches commands) cluster.nodes (cluster.broadcastAll commands).1.nodes := by
  induction commands generalizing cluster with
  | nil => exact List.forall₂_same.2 fun node _ => .refl [] node
  | cons command rest ih =>
    rw [broadcastAll, broadcast_eq]
    split
    next after stopped =>
      obtain ⟨same, delivered⟩ := Prod.mk.inj stopped
      have accepted := accepted_of_deliver delivered
      have nodes : after.nodes = cluster.nodes.map (Node.apply command) := by
        rw [← same, deliver_eq_of_accepted accepted]
      have onward := ih after
      rw [nodes, List.forall₂_map_left_iff] at onward
      exact ((List.forall₂_and_left _ _).2 ⟨accepted, onward⟩).imp fun _ _ step =>
        .cons step.1 step.2
    next after failure stopped =>
      obtain ⟨rfl, -⟩ := Prod.mk.inj stopped
      refine (deliver_forall₂ command cluster.nodes).imp fun before after step => ?_
      rcases step with rfl | ⟨accepted, rfl⟩
      · exact .refl _ _
      · exact .cons accepted (.refl _ _)

end Cluster

end Invalidation
