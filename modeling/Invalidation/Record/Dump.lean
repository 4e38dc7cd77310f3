import Invalidation.Record
import Invalidation.Raw

/-!
# Writing records

A record is written as an object of all its fields in the order of their declaration, with
integers as integers and words by their codes. Reading such an object as the same class gives
the record back.

Source: `model_dump` of the models.
-/

set_option autoImplicit false

namespace Invalidation

def Raw.ofWord {α : Type} [Coded α] (word : α) : Raw := .text (code word)

def Reference.dump (ref : Reference) : Raw := .object [("id", .int ref.id)]

def GroupSave.dump (save : GroupSave) : Raw :=
  .object [("user_group", save.group.dump), ("user_ids", .list (save.users.map .int))]

def TreeEdit.dump (edit : TreeEdit) : Raw :=
  .object [("item", edit.item.dump), ("change_type", .ofWord edit.action)]

def SchemaEdit.dump (edit : SchemaEdit) : Raw :=
  .object [("item", edit.item.dump), ("change_type", .ofWord edit.action)]

def Command.dump (command : Command) : Raw :=
  .object
    [("region", .ofWord command.region), ("operation", .ofWord command.operation),
     ("keys", .list (command.keys.map .int))]

/-- The field that holds a payload, if its form has one. -/
def Payload.dump {form : Form} : Payload form → List (String × Raw)
  | .nothing => []
  | .entities records => [("entities", .list (records.map Reference.dump))]
  | .groups records => [("entities", .list (records.map GroupSave.dump))]
  | .trees records => [("changes", .list (records.map TreeEdit.dump))]
  | .schemas records => [("changes", .list (records.map SchemaEdit.dump))]

def Notification.dump (notification : Notification) : Raw :=
  .object (("kind", .ofWord notification.kind) :: notification.payload.dump)

def Record.dump : Record → Raw
  | .reference ref => ref.dump
  | .groupSave save => save.dump
  | .treeEdit edit => edit.dump
  | .schemaEdit edit => edit.dump
  | .command order => order.dump
  | .notification event => event.dump

end Invalidation
