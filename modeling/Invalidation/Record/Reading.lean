import Invalidation.Record
import Invalidation.Reading

/-!
# Reading records

How each class of record is read from the fields of an object. Fields that a class does not
have are passed over, faults are collected in the order in which the fields are declared, and
a field with a default may be left out.

Source: the fields of `EntityRef`, `UserGroupWithUsers`, `TreeChange`, `ContentTypeChange`,
`CacheCommand` and of the classes that derive from `Notification`.
-/

set_option autoImplicit false

namespace Invalidation

open Reading

def Reference.read : Reader Reference :=
  record fun fields => (required "id" integer fields).map .mk

def GroupSave.read : Reader GroupSave :=
  record fun fields =>
    ((required "user_group" Reference.read fields).both
      (optional "user_ids" [] (list integer) fields)).map fun p => ⟨p.1, p.2⟩

def TreeEdit.read : Reader TreeEdit :=
  record fun fields =>
    ((required "item" Reference.read fields).both
      (required "change_type" word fields)).map fun p => ⟨p.1, p.2⟩

def SchemaEdit.read : Reader SchemaEdit :=
  record fun fields =>
    ((required "item" Reference.read fields).both
      (optional "change_type" .refreshMain word fields)).map fun p => ⟨p.1, p.2⟩

/-- A command from the raw values of its three fields; keys that are not given are none. -/
def Command.read : Reader Command :=
  record fun fields =>
    ((required "region" word fields).both
      ((required "operation" word fields).both
        (optional "keys" [] (list integer) fields))).map fun p => ⟨p.1, p.2.1, p.2.2⟩

/-- The one kind that a pinned topic allows, spelled exactly. -/
def Kind.readPinned (pinned : Kind) : Reader Kind
  | .text s => if s = code pinned then .valid pinned else Checked.flaw .wrongKind
  | _ => Checked.flaw .wrongKind

/-- The kind of a notification: any kind, or the pinned one, which may also be left out. -/
def Topic.readKind (topic : Topic) (fields : Fields) : Checked { kind // topic.Admits kind } :=
  match h : topic.pinned? with
  | none => (required "kind" word fields).map fun kind => ⟨kind, by simp [Admits, h]⟩
  | some pinned =>
    (optional "kind" pinned pinned.readPinned fields).map fun _ =>
      ⟨pinned, by simp [Admits, h]⟩

/-- The payload of the given form; one that is left out is empty. -/
def Payload.read : (form : Form) → Fields → Checked (Payload form)
  | .nothing, _ => .valid .nothing
  | .entities, fields => (optional "entities" [] (list Reference.read) fields).map .entities
  | .groups, fields => (optional "entities" [] (list GroupSave.read) fields).map .groups
  | .trees, fields => (optional "changes" [] (list TreeEdit.read) fields).map .trees
  | .schemas, fields => (optional "changes" [] (list SchemaEdit.read) fields).map .schemas

def Notification.read (topic : Topic) : Reader Notification :=
  record fun fields =>
    ((topic.readKind fields).both (Payload.read topic.form fields)).map fun p =>
      ⟨topic, p.1.val, p.2, p.1.property⟩

def RecordClass.read : RecordClass → Reader Record
  | reference => fun raw => (Reference.read raw).map .reference
  | groupSave => fun raw => (GroupSave.read raw).map .groupSave
  | treeEdit => fun raw => (TreeEdit.read raw).map .treeEdit
  | schemaEdit => fun raw => (SchemaEdit.read raw).map .schemaEdit
  | command => fun raw => (Command.read raw).map .command
  | notification topic => fun raw => (Notification.read topic raw).map .notification

/-- A record that is still raw, with the class as which it is to be read. -/
structure Draft where
  cls : RecordClass
  data : Raw

def Draft.read (draft : Draft) : Checked Record := draft.cls.read draft.data

end Invalidation
