import Invalidation.Cluster
import Invalidation.Proofs.Node.Coverage

/-!
# Sequences of commands

What a whole sequence of commands does to a node can be read off the node as it was before the
first of them (`applyAll_eq`): a value goes if one of the commands covers it then, and a link if
one of those that drop links does. So neither the order of the commands nor how often each of them
comes has any influence on what is left (`applyAll_congr`), and commands that are repeated behind
some of them do no more than they would have done alone (`applyAll_of_subset`).

`Accepts` says that a node carries out each of a sequence in turn. A node that is never out of
reach and keeps only keys as parents accepts every sequence (`Sound.accepts`).
-/

set_option autoImplicit false

namespace Invalidation.Node

def applyAll (commands : List Command) (node : Node) : Node :=
  commands.foldl (fun node command => node.apply command) node

/-- The node carries out the commands in turn and fails at none of them. -/
def Accepts : List Command → Node → Prop
  | [], _ => True
  | command :: rest, node => node.failure? command = none ∧ Accepts rest (node.apply command)

/-- Nothing keeps the node from carrying out commands: it is always within reach, and all parents
that it keeps are keys. -/
structure Sound (node : Node) : Prop where
  reachable : ∀ operation, node.isOut operation = false
  keyed : ∀ place kind, node.links.get? place ≠ some (.unfit kind)

theorem applyAll_cons (command : Command) (rest : List Command) (node : Node) :
    node.applyAll (command :: rest) = (node.apply command).applyAll rest := rfl

theorem applyAll_append (first second : List Command) (node : Node) :
    node.applyAll (first ++ second) = (node.applyAll first).applyAll second := by
  simp [applyAll]

/-- What the rest of a sequence evicts after its first command, beyond what that one evicts, can be
told before it. -/
private theorem evicts_or_any_apply (first : Command) (rest : List Command) (node : Node)
    (place : Place) :
    (node.evicts first place || rest.any fun command => (node.apply first).evicts command place) =
      (node.evicts first place || rest.any fun command => node.evicts command place) := by
  by_cases gone : node.evicts first place = true
  · simp [gone]
  · have same : ∀ command, (node.apply first).evicts command place = node.evicts command place := by
      intro command
      simpa [gone] using evicts_or_evicts_apply first command node place
    simp only [same]

private theorem unlinks_or_any_apply (first : Command) (rest : List Command) (node : Node)
    (place : Place) :
    (first.operation.unlinks && node.evicts first place ||
        rest.any fun command =>
          command.operation.unlinks && (node.apply first).evicts command place) =
      (first.operation.unlinks && node.evicts first place ||
        rest.any fun command => command.operation.unlinks && node.evicts command place) := by
  by_cases unlinks : first.operation.unlinks = true
  · by_cases gone : node.evicts first place = true
    · simp [unlinks, gone]
    · have same : ∀ command,
          (node.apply first).evicts command place = node.evicts command place := by
        intro command
        simpa [gone] using evicts_or_evicts_apply first command node place
      simp only [same]
  · simp only [evicts_apply_of_keeps_links (Bool.eq_false_iff.2 unlinks)]

/-- The effect of a sequence, told from the node before it alone. -/
theorem applyAll_eq (commands : List Command) (node : Node) :
    node.applyAll commands =
      { node with
        entries := node.entries.drop fun place =>
          commands.any fun command => node.evicts command place
        links := node.links.drop fun place =>
          commands.any fun command => command.operation.unlinks && node.evicts command place } := by
  induction commands generalizing node with
  | nil => simp [applyAll]
  | cons first rest ih =>
    have entries : (node.apply first).entries.drop (fun place =>
        rest.any fun command => (node.apply first).evicts command place) =
        node.entries.drop fun place =>
          (first :: rest).any fun command => node.evicts command place := by
      rw [apply_eq, Table.drop_drop]
      simp only [List.any_cons, ← evicts_or_any_apply first rest node, apply_eq]
    have links : (node.apply first).links.drop (fun place =>
        rest.any fun command =>
          command.operation.unlinks && (node.apply first).evicts command place) =
        node.links.drop fun place =>
          (first :: rest).any fun command =>
            command.operation.unlinks && node.evicts command place := by
      simp only [List.any_cons, ← unlinks_or_any_apply first rest node]
      by_cases unlinks : first.operation.unlinks = true
      · simp [apply_eq, unlinks, Table.drop_drop]
      · simp [apply_eq, unlinks]
    rw [applyAll_cons, ih, entries, links]
    rfl

/-- Sequences of the same commands have the same effect, whatever their order and however often
each command comes. -/
theorem applyAll_congr {first second : List Command}
    (same : ∀ command, command ∈ first ↔ command ∈ second) (node : Node) :
    node.applyAll first = node.applyAll second := by
  have any_same : ∀ test : Command → Bool, first.any test = second.any test := by
    intro test
    rw [Bool.eq_iff_iff, List.any_eq_true, List.any_eq_true]
    exact exists_congr fun command => and_congr_left fun _ => same command
  simp only [applyAll_eq, any_same]

/-- Commands that all come again do nothing beforehand. -/
theorem applyAll_of_subset {done commands : List Command} (again : ∀ command ∈ done,
    command ∈ commands) (node : Node) :
    (node.applyAll done).applyAll commands = node.applyAll commands := by
  rw [← applyAll_append]
  refine applyAll_congr (fun command => ?_) node
  rw [List.mem_append]
  exact ⟨fun member => member.elim (again command) id, .inr⟩

theorem apply_apply_self (command : Command) (node : Node) :
    (node.apply command).apply command = node.apply command := by
  have same : ∀ other, other ∈ [command, command] ↔ other ∈ [command] := by simp
  exact applyAll_congr same node

theorem apply_comm (first second : Command) (node : Node) :
    (node.apply first).apply second = (node.apply second).apply first := by
  have same : ∀ other, other ∈ [first, second] ↔ other ∈ [second, first] := by simp [or_comm]
  exact applyAll_congr same node

theorem unfitParent?_eq_none_iff (node : Node) (region : Region) :
    node.unfitParent? region = none ↔
      ∀ key kind, node.links.get? (region, key) ≠ some (.unfit kind) := by
  simp only [unfitParent?, List.findSome?_eq_none_iff, ne_eq, Table.get?_eq_some_iff]
  constructor
  · intro fit key kind member
    simpa using fit _ member
  · intro fit row member
    obtain ⟨⟨found, key⟩, parent⟩ := row
    cases parent with
    | key parent => rfl
    | unfit kind =>
      have other : found ≠ region := by
        rintro rfl
        exact fit key kind member
      simp [other]

/-- A command drops links and reaches no outage, so what could be carried out still can be. -/
theorem failure?_apply_eq_none {command : Command} {node : Node}
    (accepted : node.failure? command = none) (first : Command) :
    (node.apply first).failure? command = none := by
  unfold failure? at accepted ⊢
  split at accepted
  · cases accepted
  next within =>
    have still_within : ¬(node.apply first).isOut command.operation = true := within
    rw [if_neg still_within, Option.map_eq_none_iff]
    rw [Option.map_eq_none_iff] at accepted
    unfold obstacle? at accepted ⊢
    split at accepted
    next walks =>
      rw [if_pos walks, unfitParent?_eq_none_iff]
      intro key kind
      rw [get?_links_apply]
      split
      · simp
      · exact (unfitParent?_eq_none_iff node _).1 accepted key kind
    next still => rw [if_neg still]

/-- A node that could carry out each of the commands alone can carry out all of them in turn. -/
theorem accepts_of_forall {commands : List Command} {node : Node}
    (accepted : ∀ command ∈ commands, node.failure? command = none) : node.Accepts commands := by
  induction commands generalizing node with
  | nil => trivial
  | cons first rest ih =>
    refine ⟨accepted first List.mem_cons_self, ih fun command member => ?_⟩
    exact failure?_apply_eq_none (accepted command (List.mem_cons_of_mem first member)) first

/-- A node that keeps only keys as parents in a region can walk every subtree there. -/
theorem obstacle?_of_keyed {node : Node} {command : Command}
    (keyed : ∀ key kind, node.links.get? (command.region, key) ≠ some (.unfit kind)) :
    node.obstacle? command = none := by
  unfold obstacle?
  split
  · exact (unfitParent?_eq_none_iff node command.region).2 keyed
  · rfl

theorem Sound.failure?_eq_none {node : Node} (sound : node.Sound) (command : Command) :
    node.failure? command = none := by
  have walks := obstacle?_of_keyed fun key => sound.keyed (command.region, key)
  simp [failure?, sound.reachable, walks]

theorem Sound.new (name : String) : (Node.new name none).Sound where
  reachable _ := rfl
  keyed _ _ := by simp [Node.new, Table.empty, Table.get?]

theorem Sound.put {node : Node} (sound : node.Sound) (region : Region) (key : Key)
    (spelling value : Raw) (parent : Option Key) :
    (node.put region key spelling value (parent.map .key)).Sound where
  reachable := sound.reachable
  keyed place kind := by
    cases parent with
    | none => exact sound.keyed place kind
    | some parent =>
      simp only [Node.put, Option.map_some, Table.get?_insert]
      split
      · simp
      · exact sound.keyed place kind

theorem Sound.apply {node : Node} (sound : node.Sound) (command : Command) :
    (node.apply command).Sound where
  reachable := sound.reachable
  keyed place kind := by
    rw [get?_links_apply]
    split
    · simp
    · exact sound.keyed place kind

theorem Sound.accepts {node : Node} (sound : node.Sound) (commands : List Command) :
    node.Accepts commands :=
  accepts_of_forall fun command _ => sound.failure?_eq_none command

/-- On every node, also where links run in circles, what commands leave behind depends only on which
commands there are. A command that comes again does nothing, and any two may change places. A sound
node fails at none of them. -/
theorem applyAll_depends_only_on_members (node : Node) :
    (∀ first second : List Command, (∀ command, command ∈ first ↔ command ∈ second) →
        node.applyAll first = node.applyAll second) ∧
      (∀ command, (node.apply command).apply command = node.apply command) ∧
      (∀ first second, (node.apply first).apply second = (node.apply second).apply first) ∧
      (node.Sound → ∀ commands, node.Accepts commands) :=
  ⟨fun _ _ same => applyAll_congr same node, fun command => apply_apply_self command node,
    fun first second => apply_comm first second node, fun sound commands => sound.accepts commands⟩

/-- A node that caches three keys of a region, each of them the parent of another. -/
def circle : Node :=
  (((Node.new "circle" none).put .content (.ofInt 1) (.int 1) .null (some (.key (.ofInt 2)))).put
    .content (.ofInt 2) (.int 2) .null (some (.key (.ofInt 3)))).put
    .content (.ofInt 3) (.int 3) .null (some (.key (.ofInt 1)))

theorem circle_sound : circle.Sound :=
  (((Sound.new "circle").put .content (.ofInt 1) (.int 1) .null (some (.ofInt 2))).put
    .content (.ofInt 2) (.int 2) .null (some (.ofInt 3))).put
    .content (.ofInt 3) (.int 3) .null (some (.ofInt 1))

/-- In a circle the order of a removal and the refresh of a branch does not matter. -/
theorem applyAll_circle_depends_only_on_members :
    let removal : Command := ⟨.content, .remove, [2]⟩
    let branch : Command := ⟨.content, .refreshBranch, [3, 1]⟩
    (∀ command, command ∈ [removal, branch] ↔ command ∈ [branch, removal, branch]) ∧
      circle.Sound ∧
      circle.applyAll [removal, branch] = circle.applyAll [branch, removal, branch] ∧
      circle.Accepts [branch, removal, branch] := by
  intro removal branch
  have same : ∀ command, command ∈ [removal, branch] ↔ command ∈ [branch, removal, branch] := by
    intro command
    simp [or_comm]
  obtain ⟨members, _, _, accepts⟩ := applyAll_depends_only_on_members circle
  exact ⟨same, circle_sound, members _ _ same, accepts circle_sound _⟩

end Invalidation.Node
