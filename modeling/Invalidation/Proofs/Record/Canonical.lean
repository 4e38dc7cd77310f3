import Invalidation.Proofs.Notification.Answer
import Invalidation.Proofs.Record.RoundTrip
import Invalidation.Proofs.Record.Spelling

/-!
# The canonical form of a record

Whatever is read as a record of a class, the record is written in one form, and this form reads as
the very same record again. A notification on a bound topic is written in such a way that it also
reads as one on the topic of its family, which is routed alike; only saved user groups say more than
their family can (`Record.dump_is_canonical`).
-/

set_option autoImplicit false

namespace Invalidation

/-- Bound topics report a change, and all but one of them in the form of that change. -/
theorem Topic.exists_change_of_bound {topic : Topic} (bound : topic ∈ Topic.bound)
    (plain : topic ≠ .saved .userGroup) :
    ∃ change, topic.change? = some change ∧ topic.form = change.form := by
  cases topic with
  | general | family change => exact absurd (Topic.mem_bound_iff.1 bound) (by simp [pinned?])
  | saved kind =>
    refine ⟨.saved, rfl, ?_⟩
    cases kind with
    | userGroup => exact absurd rfl plain
    | _ => rfl
  | deleted kind => exact ⟨.deleted, rfl, rfl⟩
  | treeChanged kind => exact ⟨.treeChanged, rfl, rfl⟩
  | structureChanged kind => exact ⟨.structureChanged, rfl, rfl⟩

/-- Where the form is the same, a written payload reads as one that says the same. -/
theorem Payload.exists_read_dump {form other : Form} (same : form = other)
    (payload : Payload form) :
    ∃ read : Payload other, read.mentions = payload.mentions ∧
      ∀ kind, Payload.read other (("kind", kind) :: payload.dump) = .valid read := by
  subst same
  exact ⟨payload, rfl, payload.read_dump⟩

/-- In the form of its family, a notification is written like one of the family that says the
same. -/
theorem Notification.exists_family {event : Notification} {change : Change}
    (changed : event.change? = some change) (same : event.topic.form = change.form) :
    ∃ family : Notification,
      Notification.read (.family change) event.dump = .valid family ∧
      ∀ batches, family.commands batches = event.commands batches := by
  obtain ⟨payload, mentions, reads⟩ := event.payload.exists_read_dump same
  have admitted : (Topic.family change).Admits event.kind := fun _ pinned => nomatch pinned
  let family : Notification := ⟨.family change, event.kind, payload, admitted⟩
  refine ⟨family, ?_, fun batches => ?_⟩
  · exact Checked.map_eq_valid_iff.2 ⟨(⟨event.kind, admitted⟩, payload),
      Checked.both_eq_valid_iff.2 ⟨Topic.readKind_ofWord admitted _, reads _⟩, rfl⟩
  · have told : family.change? = event.change? := changed.symm
    exact Notification.commands_congr told rfl mentions fun _ => rfl

namespace Record

variable {cls : RecordClass} {raw : Raw} {record : Record}

/-- A record that was read from any value reads as itself where it is written, and as itself from
any other spelling of that value, so from an object with whatever other fields; no other record of
the class is written like it. A notification on a bound topic, saved user groups apart, also reads
as one on the topic of its family from where it is written, and every outlet routes the two
alike. -/
theorem dump_is_canonical (reads : cls.read raw = .valid record) :
    cls.read record.dump = .valid record ∧
    (∀ other, cls.outline.Respells raw other → cls.read other = .valid record) ∧
    (∀ fields others, raw = .object fields →
      (∀ name ∈ cls.fieldNames, fields.lookup name = others.lookup name) →
        cls.read (.object others) = .valid record) ∧
    (∀ other written, cls.read other = .valid written → written.dump = record.dump →
      written = record) ∧
    ∀ event, record = .notification event → event.topic ∈ Topic.bound →
      event.topic ≠ .saved .userGroup →
        ∃ change family, event.change? = some change ∧
          (RecordClass.notification (.family change)).read record.dump =
            .valid (.notification family) ∧
          ∀ outlet, ∃ commands, Outlet.route event outlet = .ok commands outlet ∧
            Outlet.route family outlet = .ok commands outlet := by
  have own : ∀ {raw record}, cls.read raw = .valid record →
      cls.read record.dump = .valid record := by
    intro raw record reads
    rw [← RecordClass.cls_of_read reads]
    exact record.read_dump
  have respelled : ∀ other, cls.outline.Respells raw other → cls.read other = .valid record := by
    intro other alike
    rw [← cls.goesBy_read alike, reads]
  refine ⟨own reads, respelled, ?_, fun other written found same => ?_, ?_⟩
  · rintro fields others rfl same
    exact respelled _ (RecordClass.respells_of_lookup same)
  · have again := own found
    rw [same, own reads] at again
    exact (Checked.valid.inj again).symm
  · rintro event rfl bound plain
    obtain ⟨change, changed, same⟩ := Topic.exists_change_of_bound bound plain
    obtain ⟨family, written, alike⟩ := Notification.exists_family changed same
    refine ⟨change, family, changed, Checked.map_eq_valid_iff.2 ⟨family, written, rfl⟩, ?_⟩
    intro outlet
    obtain ⟨commands, answered⟩ := Notification.exists_commands_of_bound bound outlet.sink.batches
    refine ⟨commands, ?_, ?_⟩
    · rw [Outlet.route_apply, answered]
      rfl
    · rw [Outlet.route_apply, alike, answered]
      rfl

/-- Two edits of content, in which one integer is a numeral between blanks and the other a number
with a fractional part, beside a field of other notifications. Spelled otherwise and without that
field they are the same record. -/
theorem dump_of_changed_tree_is_canonical :
    let edit (id : Raw) (action : String) : Raw :=
      .object [("item", .object [("id", id), ("key", .null)]), ("change_type", .text action)]
    let raw : Raw := .object
      [("entities", .int 3), ("changes",
        .list [edit (.text " 07 ") "refresh_branch", edit (.real 2) "refresh_all"])]
    let other : Raw := .object
      [("changes", .list [edit (.int 7) "refresh_branch", edit (.text "2.0") "refresh_all"])]
    let cls : RecordClass := .notification (.treeChanged .content)
    ∃ record family, cls.read raw = .valid record ∧ cls.read record.dump = .valid record ∧
      cls.read other = .valid record ∧
      (RecordClass.notification (.family .treeChanged)).read record.dump =
        .valid (.notification family) ∧
      ∀ outlet, Outlet.route family outlet =
        .ok [⟨.content, .refreshBranch, [7]⟩, ⟨.content, .refreshAll, []⟩] outlet := by
  intro edit raw other cls
  let event : Notification :=
    { topic := .treeChanged .content
      kind := .tree .content
      payload := .trees [⟨⟨7⟩, .refreshBranch⟩, ⟨⟨2⟩, .refreshAll⟩]
      admitted := fun _ pinned => (Option.some.inj pinned).symm ▸ rfl }
  have reads : cls.read raw = .valid (.notification event) := by decide +kernel
  have seven : Outline.integer.Respells (.text " 07 ") (.int 7) := .inr ⟨7, by decide +kernel, rfl⟩
  have two : Outline.integer.Respells (.real 2) (.text "2.0") :=
    .inr ⟨2, by decide +kernel, by decide +kernel⟩
  have edits : ∀ {a b : Raw} (action : String), Outline.integer.Respells a b →
      Outline.edit.Respells (edit a action) (edit b action) := fun action ids =>
    .inr ⟨_, _, rfl, rfl, .some (.inr ⟨_, _, rfl, rfl, .some ids, trivial⟩), .some rfl, trivial⟩
  have alike : cls.outline.Respells raw other :=
    .inr ⟨_, _, rfl, rfl, .none, .some (.inr ⟨_, _, rfl, rfl,
      .cons (edits _ seven) (.cons (edits _ two) .nil)⟩), trivial⟩
  obtain ⟨again, spelled, -, -, broad⟩ := dump_is_canonical reads
  obtain ⟨change, family, changed, read, routed⟩ := broad event rfl (by decide) (by decide)
  obtain rfl : Change.treeChanged = change := Option.some.inj changed
  refine ⟨_, family, reads, again, spelled other alike, read, fun outlet => ?_⟩
  obtain ⟨commands, answered, same⟩ := routed outlet
  have told : Outlet.route event outlet =
      .ok [⟨.content, .refreshBranch, [7]⟩, ⟨.content, .refreshAll, []⟩] outlet := rfl
  rw [same, ← answered, told]

end Record

end Invalidation
