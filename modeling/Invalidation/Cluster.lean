import Invalidation.Failure
import Invalidation.Journal
import Invalidation.Node

/-!
# Clusters

A cluster hands every command to all its nodes in the order in which they joined. It notes the
command in its journal first. A node that cannot carry it out ends the broadcast: the nodes before
it have carried the command out, and it and those after it have not.

Source: `ClusterMessenger`, with `broadcast`, `register` and the bound that `journal_size` puts on
the journal. A node whose `apply` raises is one that cannot be reached.
-/

set_option autoImplicit false

namespace Invalidation

structure Cluster where
  /-- Tells callers whether they may send commands with many keys. -/
  acceptsBatches : Raw
  nodes : List Node
  journal : Journal

/-- Why a node does not carry out a command, if it does not: it is out of reach, or cannot walk the
subtrees that the command asks for. -/
def Node.failure? (command : Command) (node : Node) : Option Failure :=
  if node.isOut command.operation then some (.unreachable node.name)
  else (node.obstacle? command).map fun found => .misfit (.noKey found)

namespace Cluster

/-- The bound on a journal that a value is: none at all for `null`, or else an integer that fits
into a word and is not negative. -/
def journalBound : Raw → Except Failure (Option Nat)
  | .null => .ok none
  | value =>
    match value.integer? with
    | .ok n =>
      if n < -Reading.wordBound ∨ Reading.wordBound ≤ n then .error .boundTooLarge
      else if n < 0 then .error .negativeBound
      else .ok (some n.toNat)
    | .error _ => .error .boundNotInteger

theorem journalBound_natCast (n : Nat) :
    journalBound (.int n) =
      if n < Reading.wordBound then .ok (some n) else .error .boundTooLarge := by
  have word : Reading.wordBound = 9223372036854775808 := rfl
  have opened : journalBound (.int n) =
      if (n : Int) < -Reading.wordBound ∨ Reading.wordBound ≤ n then .error .boundTooLarge
      else if (n : Int) < 0 then .error .negativeBound
      else .ok (some (n : Int).toNat) := rfl
  rw [opened, word]
  by_cases fits : (n : Int) < 9223372036854775808
  · rw [if_neg (by omega), if_neg (by omega), if_pos fits]
    rfl
  · rw [if_pos (by omega), if_neg fits]

def new (acceptsBatches bound : Raw) (nodes : List Node) : Except Failure Cluster :=
  (journalBound bound).map fun bound => ⟨acceptsBatches, nodes, .empty bound⟩

def join (node : Node) (cluster : Cluster) : Cluster :=
  { cluster with nodes := cluster.nodes ++ [node] }

/-- Hands a command to nodes in order, up to the first that does not carry it out. -/
def deliver (command : Command) : List Node → List Node × Option Failure
  | [] => ([], none)
  | node :: rest =>
    match node.failure? command with
    | some failure => (node :: rest, some failure)
    | none =>
      let (reached, failure) := deliver command rest
      (node.apply command :: reached, failure)

def broadcast (command : Command) (cluster : Cluster) : Cluster × Option Failure :=
  let (nodes, failure) := deliver command cluster.nodes
  ({ cluster with nodes := nodes, journal := cluster.journal.record command }, failure)

end Cluster

end Invalidation
