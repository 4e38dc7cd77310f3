import Invalidation.Command

/-!
# Payloads

What a notification carries. Its form decides what a record of it looks like: a plain
reference to an entity, a saved user group together with its users, or an edit of a tree or of
a schema. Every record names one entity, and `ids` lists those in order.

Source: `EntityRef`, `UserGroupWithUsers`, `TreeChange`, `ContentTypeChange` and `TREE_OPERATIONS`.
-/

set_option autoImplicit false

namespace Invalidation

/-- A reference to an entity by its number. -/
structure Reference where
  id : Int
  deriving DecidableEq, Repr

/-- A saved user group and the users assigned to it. -/
structure GroupSave where
  group : Reference
  users : List Int
  deriving DecidableEq, Repr

def GroupSave.id (save : GroupSave) : Int := save.group.id

inductive TreeAction where
  | refreshNode | refreshBranch | remove | refreshAll
  deriving DecidableEq, Repr

inductive SchemaAction where
  | create | refreshMain | refreshOther | remove
  deriving DecidableEq, Repr

instance : Coded TreeAction where
  all := [.refreshNode, .refreshBranch, .remove, .refreshAll]
  code
    | .refreshNode => "refresh_node"
    | .refreshBranch => "refresh_branch"
    | .remove => "remove"
    | .refreshAll => "refresh_all"
  find_code action := by cases action <;> rfl

instance : Coded SchemaAction where
  all := [.create, .refreshMain, .refreshOther, .remove]
  code
    | .create => "create"
    | .refreshMain => "refresh_main"
    | .refreshOther => "refresh_other"
    | .remove => "remove"
  find_code action := by cases action <;> rfl

/-- The cache operation that answers an edit of a tree. -/
def TreeAction.operation : TreeAction → Operation
  | .refreshNode => .refresh
  | .refreshBranch => .refreshBranch
  | .remove => .remove
  | .refreshAll => .refreshAll

structure TreeEdit where
  item : Reference
  action : TreeAction
  deriving DecidableEq, Repr

structure SchemaEdit where
  item : Reference
  action : SchemaAction
  deriving DecidableEq, Repr

/-- The kinds of payload a notification can have. -/
inductive Form where
  | nothing | entities | groups | trees | schemas
  deriving DecidableEq, Repr

inductive Payload : Form → Type where
  | nothing : Payload .nothing
  | entities (records : List Reference) : Payload .entities
  | groups (records : List GroupSave) : Payload .groups
  | trees (records : List TreeEdit) : Payload .trees
  | schemas (records : List SchemaEdit) : Payload .schemas
  deriving DecidableEq, Repr

namespace Payload

/-- One step for every record, in order: the operation that answers it and the entity it
names. An edit of a tree decides the operation itself; every other record takes the one given. -/
def steps {form : Form} (operation : Operation) : Payload form → List (Operation × Int)
  | .nothing => []
  | .entities records => records.map fun record => (operation, record.id)
  | .groups records => records.map fun record => (operation, record.id)
  | .trees records => records.map fun record => (record.action.operation, record.item.id)
  | .schemas records => records.map fun record => (operation, record.item.id)

def ids {form : Form} : Payload form → List Int
  | .nothing => []
  | .entities records => records.map (·.id)
  | .groups records => records.map (·.id)
  | .trees records => records.map (·.item.id)
  | .schemas records => records.map (·.item.id)

theorem map_snd_steps {form : Form} (operation : Operation) (payload : Payload form) :
    (payload.steps operation).map Prod.snd = payload.ids := by
  cases payload <;> simp [steps, ids, Function.comp_def]

end Payload

end Invalidation
