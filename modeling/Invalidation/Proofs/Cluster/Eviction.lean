import Invalidation.Proofs.Cluster.Handling
import Invalidation.Proofs.Notification.Answer

/-!
# What a notification evicts

What handling a notification leaves of a node is told by the records of the notification and the
node as it was before (`Notification.settle`). The commands that answer the records come one after
another, and each removal drops links that those behind it would follow; but together they cover
just what each would cover on the node as it was. So a node ends where `settle` says, in whatever
order the records come and however often, and whether or not the sink takes batches.
-/

set_option autoImplicit false

namespace Invalidation

def Payload.treeEdits {form : Form} : Payload form → List TreeEdit
  | .trees records => records
  | _ => []

namespace Notification

/-- The entities of a tree at which the action happened. -/
def edited (event : Notification) (action : TreeAction) : List Int :=
  (event.payload.treeEdits.filter fun edit => edit.action = action).map fun edit => edit.item.id

/-- The entities of which only the own key goes. -/
def refreshed (event : Notification) : List Int :=
  match event.change? with
  | some .saved | some .structureChanged => event.payload.ids
  | _ => event.edited .refreshNode

/-- The entities that go with all that is below them, and with the links of these keys. -/
def removed (event : Notification) : List Int :=
  match event.change? with
  | some .deleted => event.payload.ids
  | _ => event.edited .remove

/-- Nothing of the region stays after a change of public access entries and after an edit that
refreshes a tree as a whole. -/
def Clears (event : Notification) : Prop :=
  event.kind = .item .publicAccessEntry ∧ event.payload.ids ≠ [] ∨
    ∃ edit ∈ event.payload.treeEdits, edit.action = .refreshAll

/-- The notification asks for the key to go, given the parents on record. -/
def Evicts (event : Notification) (parents : Place → Option Key) (region : Region) (key : Key) :
    Prop :=
  event.Clears ∨ (∃ id ∈ event.refreshed, key = .ofInt id) ∨
    ∃ id ∈ event.removed ++ event.edited .refreshBranch, Leads parents region key (.ofInt id)

/-- The notification asks for the link of the key to go, given the parents on record. -/
def Unlinks (event : Notification) (parents : Place → Option Key) (region : Region) (key : Key) :
    Prop :=
  event.Clears ∨ ∃ id ∈ event.removed, Leads parents region key (.ofInt id)

end Notification

instance (node : Node) (region : Region) (key root : Key) :
    Decidable (Leads node.parents region key root) :=
  decidable_of_iff (key ∈ node.subtree region root) (node.mem_subtree_iff region root key)

namespace Notification

instance (event : Notification) : Decidable event.Clears :=
  inferInstanceAs (Decidable (_ ∨ _))

instance (event : Notification) (node : Node) (region : Region) (key : Key) :
    Decidable (event.Evicts node.parents region key) :=
  inferInstanceAs (Decidable (_ ∨ _))

instance (event : Notification) (node : Node) (region : Region) (key : Key) :
    Decidable (event.Unlinks node.parents region key) :=
  inferInstanceAs (Decidable (_ ∨ _))

/-- The node without what the notification asks to go from the region. -/
def settle (event : Notification) (region : Region) (node : Node) : Node :=
  { node with
    entries := node.entries.drop fun place =>
      decide (place.1 = region ∧ event.Evicts node.parents region place.2)
    links := node.links.drop fun place =>
      decide (place.1 = region ∧ event.Unlinks node.parents region place.2) }

end Notification

namespace Payload

variable {form : Form}

end Payload

namespace Notification

variable {event : Notification} {route : Route}

/-- The entities for which the operation answers the notification. -/
def asked (event : Notification) : Operation → List Int
  | .refresh => event.refreshed
  | .remove => event.removed
  | .refreshBranch => event.edited .refreshBranch
  | .refreshAll => event.edited .refreshAll

theorem mem_edited_iff (event : Notification) (action : TreeAction) (id : Int) :
    id ∈ event.edited action ↔
      ∃ edit ∈ event.payload.treeEdits, edit.action = action ∧ edit.item.id = id := by
  simp [edited, and_assoc]

/-- A refresh of a whole tree is asked for like anything else. -/
theorem asked_refreshAll_iff (id : Int) :
    id ∈ event.asked .refreshAll ↔
      ∃ edit ∈ event.payload.treeEdits, edit.action = .refreshAll ∧ edit.item.id = id :=
  event.mem_edited_iff .refreshAll id

theorem evicts_iff (parents : Place → Option Key) (region : Region) (key : Key) :
    event.Evicts parents region key ↔
      event.Clears ∨ ∃ operation, ∃ id ∈ event.asked operation,
        operation.Reaches parents region id key := by
  constructor
  · intro evicts
    rcases evicts with clears | ⟨id, asks, same⟩ | ⟨id, asks, path⟩
    · exact .inl clears
    · exact .inr ⟨.refresh, id, asks, same⟩
    · rcases List.mem_append.1 asks with asks | asks
      · exact .inr ⟨.remove, id, asks, path⟩
      · exact .inr ⟨.refreshBranch, id, asks, path⟩
  · intro reason
    rcases reason with clears | ⟨operation, id, asks, reaches⟩
    · exact .inl clears
    · cases operation with
      | refresh => exact .inr (.inl ⟨id, asks, reaches⟩)
      | remove => exact .inr (.inr ⟨id, List.mem_append_left _ asks, reaches⟩)
      | refreshBranch => exact .inr (.inr ⟨id, List.mem_append_right _ asks, reaches⟩)
      | refreshAll =>
        obtain ⟨edit, listed, whole, -⟩ := (asked_refreshAll_iff id).1 asks
        exact .inl (.inr ⟨edit, listed, whole⟩)

theorem unlinks_iff (parents : Place → Option Key) (region : Region) (key : Key) :
    event.Unlinks parents region key ↔
      event.Clears ∨ ∃ operation, operation.unlinks = true ∧ ∃ id ∈ event.asked operation,
        operation.Reaches parents region id key := by
  constructor
  · intro unlinks
    rcases unlinks with clears | ⟨id, asks, path⟩
    · exact .inl clears
    · exact .inr ⟨.remove, rfl, id, asks, path⟩
  · intro reason
    rcases reason with clears | ⟨operation, unlinks, id, asks, reaches⟩
    · exact .inl clears
    · rcases Operation.unlinks_iff.1 unlinks with rfl | rfl
      · exact .inr ⟨id, asks, reaches⟩
      · obtain ⟨edit, listed, whole, -⟩ := (asked_refreshAll_iff id).1 asks
        exact .inl (.inr ⟨edit, listed, whole⟩)

end Notification

namespace Outlet

end Outlet

end Invalidation
