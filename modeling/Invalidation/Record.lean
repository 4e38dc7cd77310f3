import Invalidation.Notification

/-!
# Records

All values that are exchanged with the outside are records of some class. Two records are
equal when their classes and all their fields are. Records do not change once they are made.

Source: the models as a whole, by the names of their classes.
-/

set_option autoImplicit false

namespace Invalidation

inductive RecordClass where
  | reference | groupSave | treeEdit | schemaEdit | command
  | notification (topic : Topic)
  deriving DecidableEq, Repr

inductive Record where
  | reference (ref : Reference)
  | groupSave (save : GroupSave)
  | treeEdit (edit : TreeEdit)
  | schemaEdit (edit : SchemaEdit)
  | command (command : Command)
  | notification (notification : Notification)
  deriving DecidableEq

namespace RecordClass

def name : RecordClass → String
  | reference => "EntityRef"
  | groupSave => "UserGroupWithUsers"
  | treeEdit => "TreeChange"
  | schemaEdit => "ContentTypeChange"
  | command => "CacheCommand"
  | notification topic => topic.name

def all : List RecordClass :=
  [reference, groupSave, treeEdit, schemaEdit, command] ++
    (Topic.broad ++ Topic.bound).map notification

def ofName? (s : String) : Option RecordClass := all.find? fun cls => cls.name == s

end RecordClass

def Record.cls : Record → RecordClass
  | .reference _ => .reference
  | .groupSave _ => .groupSave
  | .treeEdit _ => .treeEdit
  | .schemaEdit _ => .schemaEdit
  | .command _ => .command
  | .notification event => .notification event.topic

end Invalidation
