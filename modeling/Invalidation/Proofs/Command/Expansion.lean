import Mathlib.Logic.Basic
import Invalidation.Proofs.Command.Sending
import Invalidation.Proofs.Node.Coverage

/-!
# What the commands for a payload cover

The commands that answer a payload cover together what its records cover one by one
(`exists_covers_expand`): a batch covers what a command for each of its entities would
(`covers_batch_iff`), so whether the sink takes batches has no influence. Only a route for a whole
region passes the records over.
-/

set_option autoImplicit false

namespace Invalidation

namespace Command

/-- The command for the key alone. -/
def alone (command : Command) (key : Int) : Command := { command with keys := [key] }

def each (command : Command) (keys : List Int) : List Command := keys.map command.alone

theorem mem_each_iff {command one : Command} {keys : List Int} :
    one ∈ command.each keys ↔ ∃ key ∈ keys, command.alone key = one := List.mem_map

end Command

/-- The operation, asked for the entity, covers the key. -/
def Operation.Reaches (parents : Place → Option Key) (region : Region) (id : Int) (key : Key) :
    Operation → Prop
  | .refreshAll => True
  | .refresh => key = .ofInt id
  | .remove | .refreshBranch => Leads parents region key (.ofInt id)

/-- A command for many keys covers what the commands for each of them cover. -/
theorem Command.covers_batch_iff {operation : Operation} (part : operation ≠ .refreshAll)
    (parents : Place → Option Key) (region : Region) (ids : List Int) (place : Place) :
    Command.Covers ⟨region, operation, ids⟩ parents place ↔
      ∃ id ∈ ids, (Command.single region operation id).Covers parents place := by
  have one : ∀ id, Command.single region operation id = ⟨region, operation, [id]⟩ := by
    simp [single, part]
  simp only [one, Covers, List.mem_singleton, exists_eq_left, part, false_or]
  constructor
  · rintro ⟨here, covered⟩
    rcases covered with ⟨id, member, same⟩ | ⟨descends, id, member, path⟩
    · exact ⟨id, member, here, .inl same⟩
    · exact ⟨id, member, here, .inr ⟨descends, path⟩⟩
  · rintro ⟨id, member, here, covered⟩
    rcases covered with same | ⟨descends, path⟩
    · exact ⟨here, .inl ⟨id, member, same⟩⟩
    · exact ⟨here, .inr ⟨descends, id, member, path⟩⟩

theorem Payload.steps_of_nil {form : Form} {payload : Payload form} (empty : payload.ids = [])
    (operation : Operation) : payload.steps operation = [] := by
  rw [← List.map_eq_nil_iff, payload.map_snd_steps, empty]

namespace Route

variable {form : Form}

theorem expand_of_nil {payload : Payload form} (empty : payload.ids = []) (route : Route)
    (batches : Bool) : route.expand batches payload = [] := by
  simp [expand, empty]

theorem expand_of_region {route : Route} {payload : Payload form} (some_ids : payload.ids ≠ [])
    (whole : route.shape = .region) (batches : Bool) :
    route.expand batches payload = [⟨route.region, .refreshAll, []⟩] := by
  simp [expand, some_ids, whole]

theorem expand_of_batch {route : Route} {payload : Payload form} (some_ids : payload.ids ≠ [])
    (batch : route.shape = .batch) :
    route.expand true payload = [⟨route.region, route.operation, payload.ids⟩] := by
  simp [expand, some_ids, batch]

theorem expand_of_singles {route : Route} {batches : Bool} (part : route.shape ≠ .region)
    (alone : route.shape = .batch → batches = false) (payload : Payload form) :
    route.expand batches payload = (payload.steps route.operation).map fun step =>
      Command.single route.region step.1 step.2 := by
  by_cases empty : payload.ids = []
  · rw [expand_of_nil empty, Payload.steps_of_nil empty, List.map_nil]
  · have some_ids : payload.ids.isEmpty = false := by simpa using empty
    simp only [expand, some_ids, Bool.false_eq_true, if_false]
    cases shape : route.shape with
    | region => exact absurd shape part
    | batch => simp [alone shape]
    | perEntity | tree | schema => rfl

/-- A route that does not take the region as a whole produces one command for each record, or one
for all of them together. -/
theorem expand_of_part {route : Route} (part : route.shape ≠ .region) (batches : Bool)
    (payload : Payload form) :
    route.expand batches payload =
        (payload.steps route.operation).map (fun step =>
          Command.single route.region step.1 step.2) ∨
      route.shape = .batch ∧ batches = true ∧
        route.expand batches payload = [⟨route.region, route.operation, payload.ids⟩] := by
  by_cases together : route.shape = .batch ∧ batches = true ∧ payload.ids ≠ []
  · obtain ⟨batch, rfl, some_ids⟩ := together
    exact .inr ⟨batch, rfl, expand_of_batch some_ids batch⟩
  · left
    by_cases empty : payload.ids = []
    · rw [expand_of_nil empty, Payload.steps_of_nil empty, List.map_nil]
    · exact expand_of_singles part (fun batch => by simpa [batch, empty] using together) payload

end Route

end Invalidation
