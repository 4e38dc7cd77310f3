import Invalidation.Failure

/-!
# Assigning to records

Records do not change. Assigning to a field fails, whether the class has the field or not. A name of
private use is no field's, and assigning to it is accepted and does nothing; only what writes the
record is missed when it is gone. The fields as a whole can be put in place of others, which are not
read any more.

Source: the models are `frozen`.
-/

set_option autoImplicit false

namespace Invalidation

/-- The field that holds the change of a class of notifications, which its records share. -/
def sharedField : String := "change"

/-- What an assignment is to. -/
inductive Assignee where
  | unnamed (kind : RawKind)
  | field (name : String)
  /-- A name of private use. -/
  | hidden
  | content
  | cls
  /-- What writes the record. -/
  | writer
  /-- What follows from the fields. -/
  | derived (name : String)
  /-- What refers to the record. -/
  | references
  deriving DecidableEq, Repr

inductive Assigned where
  | kept (record : Record)
  /-- The record has these values in the place of its fields. -/
  | replaced (cls : RecordClass) (fields : Fields)

def Form.fieldNames : Form → List String
  | .nothing => []
  | .entities | .groups => ["entities"]
  | .trees | .schemas => ["changes"]

namespace RecordClass

def fieldNames : RecordClass → List String
  | reference => ["id"]
  | groupSave => ["user_group", "user_ids"]
  | treeEdit | schemaEdit => ["item", "change_type"]
  | command => ["region", "operation", "keys"]
  | notification topic => "kind" :: topic.form.fieldNames

/-- The class that knows what refers to the records: all notifications have this in common. -/
def referenceOwner : RecordClass → RecordClass
  | notification _ => notification .general
  | cls => cls

end RecordClass

namespace Record

def assign (record : Record) (assignee : Assignee) (value : Raw) : Except Failure Assigned :=
  match assignee with
  | .unnamed kind => .error (.notName kind)
  | .field name =>
    match record with
    | .notification event =>
      if name = sharedField then .error (.sharedField (.notification event.topic) name)
      else immutable name
    | _ => immutable name
  | .hidden => .ok (.kept record)
  | .content =>
    match value with
    | .object fields => .ok (.replaced record.cls fields)
    | other => .error (.notFields other.kind)
  | .cls => .error (.notClass value.kind)
  | .writer => .error (.notWriter value.kind)
  | .derived name => .error (.derivedField record.cls name)
  | .references => .error (.referenced record.cls.referenceOwner)
where
  immutable (name : String) : Except Failure Assigned :=
    .error (.invalid ⟨[.field name], .immutable⟩ [])

end Record

def RecordClass.integerNames : RecordClass → List String
  | reference => ["id"]
  | _ => []

/-- A field that was not read is written as it is, but for a truth value in place of an integer,
which counts as one or zero. -/
def RecordClass.dumpUnread (cls : RecordClass) (field : String × Raw) : String × Raw :=
  match cls.integerNames.contains field.1, field.2 with
  | true, .bool value => (field.1, .int (if value then 1 else 0))
  | _, _ => field

def Assigned.dump : Assigned → Raw
  | .kept record => record.dump
  | .replaced cls fields =>
    .object ((fields.filter fun field => cls.fieldNames.contains field.1).map cls.dumpUnread)

end Invalidation
