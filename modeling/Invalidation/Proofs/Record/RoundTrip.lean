import Invalidation.Proofs.Reading.Acceptance
import Invalidation.Record.Reading

/-!
# Reading written records

A record of any class is written so that it reads as the very same record of its class
(`Record.read_dump`). Each class has its own lemma, put together from those of its parts along the
fields in which they are written.
-/

set_option autoImplicit false

namespace Invalidation

open Reading

theorem Reference.read_dump (ref : Reference) : Reference.read ref.dump = .valid ref := rfl

theorem GroupSave.read_dump (save : GroupSave) : GroupSave.read save.dump = .valid save := by
  have users := list_map_eq_valid (fun _ => rfl : ∀ n, integer (.int n) = .valid n) save.users
  rw [GroupSave.read, GroupSave.dump, record, required_eq_valid rfl save.group.read_dump,
    optional_eq_valid rfl users]
  rfl

theorem TreeEdit.read_dump (edit : TreeEdit) : TreeEdit.read edit.dump = .valid edit := by
  rw [TreeEdit.read, TreeEdit.dump, record, required_eq_valid rfl edit.item.read_dump,
    required_eq_valid rfl (word_ofWord edit.action)]
  rfl

theorem SchemaEdit.read_dump (edit : SchemaEdit) : SchemaEdit.read edit.dump = .valid edit := by
  rw [SchemaEdit.read, SchemaEdit.dump, record, required_eq_valid rfl edit.item.read_dump,
    optional_eq_valid rfl (word_ofWord edit.action)]
  rfl

theorem Command.read_dump (command : Command) : Command.read command.dump = .valid command := by
  have keys := list_map_eq_valid (fun _ => rfl : ∀ n, integer (.int n) = .valid n) command.keys
  rw [Command.read, Command.dump, record, required_eq_valid rfl (word_ofWord command.region),
    required_eq_valid rfl (word_ofWord command.operation), optional_eq_valid rfl keys]
  rfl

/-- The field in front of a written payload is none of a payload. -/
theorem Payload.read_dump {form : Form} (payload : Payload form) (kind : Raw) :
    Payload.read form (("kind", kind) :: payload.dump) = .valid payload := by
  cases payload with
  | nothing => rfl
  | entities records =>
    have reads := list_map_eq_valid Reference.read_dump records
    exact Checked.map_eq_valid_iff.2 ⟨records, optional_eq_valid rfl reads, rfl⟩
  | groups records =>
    have reads := list_map_eq_valid GroupSave.read_dump records
    exact Checked.map_eq_valid_iff.2 ⟨records, optional_eq_valid rfl reads, rfl⟩
  | trees records =>
    have reads := list_map_eq_valid TreeEdit.read_dump records
    exact Checked.map_eq_valid_iff.2 ⟨records, optional_eq_valid rfl reads, rfl⟩
  | schemas records =>
    have reads := list_map_eq_valid SchemaEdit.read_dump records
    exact Checked.map_eq_valid_iff.2 ⟨records, optional_eq_valid rfl reads, rfl⟩

theorem Kind.readPinned_ofWord (kind : Kind) : kind.readPinned (.ofWord kind) = .valid kind := by
  unfold Raw.ofWord Kind.readPinned
  exact if_pos rfl

/-- A topic reads every kind that it admits from where it is written. -/
theorem Topic.readKind_ofWord {topic : Topic} {kind : Kind} (admitted : topic.Admits kind)
    (payload : Fields) :
    topic.readKind (("kind", .ofWord kind) :: payload) = .valid ⟨kind, admitted⟩ := by
  unfold Topic.readKind
  split
  next free =>
    rw [required_eq_valid rfl (word_ofWord kind)]
    rfl
  next pinned found =>
    obtain rfl := admitted pinned found
    rw [optional_eq_valid rfl kind.readPinned_ofWord]
    rfl

theorem Notification.read_dump (event : Notification) :
    Notification.read event.topic event.dump = .valid event := by
  rw [Notification.read, Notification.dump, record, Topic.readKind_ofWord event.admitted,
    Payload.read_dump event.payload]
  rfl

theorem Notification.topic_of_read {topic : Topic} {raw : Raw} {event : Notification}
    (reads : Notification.read topic raw = .valid event) : event.topic = topic := by
  cases raw with
  | object fields =>
    obtain ⟨parts, -, rfl⟩ := Checked.map_eq_valid_iff.1 reads
    rfl
  | _ => cases reads

theorem Record.read_dump (record : Record) : record.cls.read record.dump = .valid record := by
  cases record with
  | reference ref => exact Checked.map_eq_valid_iff.2 ⟨ref, ref.read_dump, rfl⟩
  | groupSave save => exact Checked.map_eq_valid_iff.2 ⟨save, save.read_dump, rfl⟩
  | treeEdit edit => exact Checked.map_eq_valid_iff.2 ⟨edit, edit.read_dump, rfl⟩
  | schemaEdit edit => exact Checked.map_eq_valid_iff.2 ⟨edit, edit.read_dump, rfl⟩
  | command order => exact Checked.map_eq_valid_iff.2 ⟨order, order.read_dump, rfl⟩
  | notification event => exact Checked.map_eq_valid_iff.2 ⟨event, event.read_dump, rfl⟩

/-- What reads as a record of a class is of that class. -/
theorem RecordClass.cls_of_read {cls : RecordClass} {raw : Raw} {record : Record}
    (reads : cls.read raw = .valid record) : record.cls = cls := by
  cases cls with
  | notification topic =>
    obtain ⟨event, found, rfl⟩ := Checked.map_eq_valid_iff.1 reads
    exact congrArg RecordClass.notification (Notification.topic_of_read found)
  | reference | groupSave | treeEdit | schemaEdit | command =>
    obtain ⟨part, -, rfl⟩ := Checked.map_eq_valid_iff.1 reads
    rfl

end Invalidation
