import Invalidation.Node
import Invalidation.Proofs.Node.Walk

/-!
# What a command covers

`Command.Covers` says without walking anything which places a command covers, given the parents
that are recorded, and `evicts_iff` that a node evicts exactly these. A removal drops links that
later commands would follow. That does not matter: what a removal covers is closed under descent
(`Command.Covers.child`), so from a key that it does not cover the same keys are reached afterwards
(`leads_apply_iff`), and a later command covers, beyond what is gone already, exactly what it would
have covered before (`evicts_or_evicts_apply`).
-/

set_option autoImplicit false

namespace Invalidation

/-- Following the recorded parents from a key of the region, in any number of steps, comes to the
root. -/
def Leads (parents : Place → Option Key) (region : Region) (key root : Key) : Prop :=
  Relation.ReflTransGen (fun child parent => parents (region, child) = some parent) key root

/-- A command covers the whole region that it refreshes, every key that it names, and, if it removes
or refreshes branches, every key from which parents lead to one that it names. -/
def Command.Covers (command : Command) (parents : Place → Option Key) (place : Place) : Prop :=
  place.1 = command.region ∧
    (command.operation = .refreshAll ∨ (∃ id ∈ command.keys, place.2 = .ofInt id) ∨
      (command.operation = .remove ∨ command.operation = .refreshBranch) ∧
        ∃ id ∈ command.keys, Leads parents command.region place.2 (.ofInt id))

theorem Operation.descends_iff {operation : Operation} :
    operation.descends = true ↔ operation = .remove ∨ operation = .refreshBranch := by
  cases operation <;> simp [descends]

theorem Operation.unlinks_iff {operation : Operation} :
    operation.unlinks = true ↔ operation = .remove ∨ operation = .refreshAll := by
  cases operation <;> simp [unlinks]

/-- What is covered by a command that drops links is closed under descent. -/
theorem Command.Covers.child {command : Command} {parents : Place → Option Key} {region : Region}
    {key parent : Key} (unlinks : command.operation.unlinks = true)
    (covered : command.Covers parents (region, parent))
    (link : parents (region, key) = some parent) : command.Covers parents (region, key) := by
  obtain ⟨rfl, whole | ⟨id, member, rfl⟩ | ⟨descends, id, member, path⟩⟩ := covered
  · exact ⟨rfl, .inl whole⟩
  · rcases Operation.unlinks_iff.1 unlinks with removes | whole
    · exact ⟨rfl, .inr (.inr ⟨.inl removes, id, member, .single link⟩)⟩
    · exact ⟨rfl, .inl whole⟩
  · exact ⟨rfl, .inr (.inr ⟨descends, id, member, path.head link⟩)⟩

namespace Node

def parents (node : Node) (place : Place) : Option Key :=
  match node.links.get? place with
  | some (.key parent) => some parent
  | _ => none

/-- Whether a node drops the value of a place when it carries out a command. -/
def evicts (command : Command) (node : Node) : Place → Bool :=
  covers command (node.named command)

theorem apply_eq (command : Command) (node : Node) :
    node.apply command =
      { node with
        entries := node.entries.drop (node.evicts command)
        links :=
          if command.operation.unlinks then node.links.drop (node.evicts command)
          else node.links } := rfl

theorem parents_eq_some_iff {node : Node} {place : Place} {parent : Key} :
    node.parents place = some parent ↔ node.links.get? place = some (.key parent) := by
  unfold parents
  split <;> simp_all

theorem mem_linksOf_iff (node : Node) (region : Region) (link : Walk.Link) :
    link ∈ node.linksOf region ↔ node.parents (region, link.1) = some link.2 := by
  rw [parents_eq_some_iff, Table.get?_eq_some_iff, linksOf, List.mem_filterMap]
  constructor
  · intro ⟨⟨place, parent⟩, member, kept⟩
    cases parent with
    | unfit kind => simp at kept
    | key parent =>
      simp only [Option.ite_none_right_eq_some, Option.some.injEq] at kept
      obtain ⟨rfl, rfl⟩ := kept
      exact member
  · intro member
    exact ⟨_, member, by simp⟩

theorem mem_subtree_iff (node : Node) (region : Region) (root key : Key) :
    key ∈ node.subtree region root ↔ Leads node.parents region key root := by
  rw [subtree, Walk.mem_reached_run_iff, Walk.Leads, Leads]
  simp only [mem_linksOf_iff]

/-- A node evicts exactly the places that a command covers. -/
theorem evicts_iff (command : Command) (node : Node) (place : Place) :
    node.evicts command place = true ↔ command.Covers node.parents place := by
  have names : place.2 ∈ command.keys.map Key.ofInt ↔ ∃ id ∈ command.keys, place.2 = .ofInt id := by
    simp [eq_comm]
  have below : (place.2 ∈ (command.keys.map Key.ofInt).flatMap fun key =>
      node.subtree command.region key) ↔
        ∃ id ∈ command.keys, Leads node.parents command.region place.2 (.ofInt id) := by
    simp only [List.flatMap_map, List.mem_flatMap, mem_subtree_iff]
  simp only [evicts, covers, named, Bool.and_eq_true, beq_iff_eq, Bool.or_eq_true,
    List.contains_iff_mem, Command.Covers]
  refine and_congr_right fun _ => or_congr_right ?_
  by_cases descends : command.operation.descends = true
  · rw [if_pos descends, List.mem_append, names, below]
    simp [Operation.descends_iff.1 descends]
  · have flat := descends
    rw [Operation.descends_iff] at flat
    rw [if_neg descends, names]
    simp [flat]

theorem get?_links_apply (command : Command) (node : Node) (place : Place) :
    (node.apply command).links.get? place =
      if command.operation.unlinks && node.evicts command place then none
      else node.links.get? place := by
  rw [apply_eq]
  by_cases unlinks : command.operation.unlinks = true
  · simp [unlinks, Table.get?_drop]
  · simp [unlinks]

theorem parents_apply (command : Command) (node : Node) (place : Place) :
    (node.apply command).parents place =
      if command.operation.unlinks && node.evicts command place then none
      else node.parents place := by
  unfold parents
  rw [get?_links_apply]
  by_cases gone : (command.operation.unlinks && node.evicts command place) = true
  · rw [if_pos gone, if_pos gone]
  · rw [if_neg gone, if_neg gone]

theorem parents_apply_of_not_evicts {command : Command} {node : Node} {place : Place}
    (kept : ¬node.evicts command place = true) :
    (node.apply command).parents place = node.parents place := by
  simp [parents_apply, kept]

/-- A command drops links only, so whatever led to a root afterwards did so before. -/
theorem leads_of_leads_apply {command : Command} {node : Node} {region : Region} {key root : Key}
    (path : Leads (node.apply command).parents region key root) :
    Leads node.parents region key root := by
  refine Relation.ReflTransGen.mono (fun child parent link => ?_) _ _ path
  rw [parents_apply] at link
  split at link
  · cases link
  · exact link

/-- From a key that a command does not evict, the same keys are reached after it as before: a chain
of parents that it breaks only starts at keys that it evicts. -/
theorem leads_apply_iff {command : Command} {node : Node} {region : Region} {key root : Key}
    (kept : ¬node.evicts command (region, key) = true) :
    Leads (node.apply command).parents region key root ↔ Leads node.parents region key root := by
  refine ⟨leads_of_leads_apply, fun path => ?_⟩
  by_cases unlinks : command.operation.unlinks = true
  · induction path using Relation.ReflTransGen.head_induction_on with
    | refl => exact .refl
    | head link _ ih =>
      have above_kept : ¬node.evicts command (region, _) = true := fun above =>
        kept ((evicts_iff _ _ _).2 (((evicts_iff _ _ _).1 above).child unlinks link))
      exact (ih above_kept).head ((parents_apply_of_not_evicts kept).trans link)
  · refine Relation.ReflTransGen.mono (fun child parent link => ?_) _ _ path
    simpa [parents_apply, unlinks] using link

/-- After a command, another one evicts what it would have evicted before, apart from what is gone
already. -/
theorem evicts_or_evicts_apply (first second : Command) (node : Node) (place : Place) :
    (node.evicts first place || (node.apply first).evicts second place) =
      (node.evicts first place || node.evicts second place) := by
  by_cases gone : node.evicts first place = true
  · simp [gone]
  · obtain ⟨region, key⟩ := place
    rw [Bool.eq_false_iff.2 gone, Bool.false_or, Bool.false_or, Bool.eq_iff_iff, evicts_iff,
      evicts_iff]
    refine and_congr_right ?_
    rintro rfl
    simp only [leads_apply_iff gone]

/-- A command that drops no links has no influence on what another one evicts. -/
theorem evicts_apply_of_keeps_links {first : Command} (keeps : first.operation.unlinks = false)
    (second : Command) (node : Node) : (node.apply first).evicts second = node.evicts second := by
  have same : (node.apply first).parents = node.parents := by
    funext place
    simp [parents_apply, keeps]
  funext place
  rw [Bool.eq_iff_iff, evicts_iff, evicts_iff, same]

end Node

end Invalidation
