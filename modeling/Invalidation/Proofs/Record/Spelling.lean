import Mathlib.Data.List.Forall2
import Invalidation.Record.Assign
import Invalidation.Record.Reading

/-!
# Spellings of the same record

The same integer may be spelled in several ways, and an object may have fields that do not belong to
the record it is read as. The outline of a class says where its records hold integers and which
fields belong to them. Two raw values that spell the same by the outline of a class are read alike,
faults included (`RecordClass.goesBy_read`): along the outline, each reader goes by its own part.
-/

set_option autoImplicit false

namespace Invalidation

/-- Where a raw value may be spelled in several ways. -/
inductive Outline where
  | exact
  | integer
  | list (element : Outline)
  /-- An object in which no other fields than these count. -/
  | record (fields : List (String × Outline))

namespace Outline

mutual

/-- The two values differ at most by spellings of the same integers, and by fields that do not
count. -/
def Respells : Outline → Raw → Raw → Prop
  | .exact, a, b => a = b
  | .integer, a, b => a = b ∨ ∃ n, Reading.integer a = .valid n ∧ Reading.integer b = .valid n
  | .list element, a, b =>
    a = b ∨ ∃ as bs, a = .list as ∧ b = .list bs ∧ List.Forall₂ element.Respells as bs
  | .record fields, a, b =>
    a = b ∨ ∃ as bs, a = .object as ∧ b = .object bs ∧ FieldsRespell fields as bs

/-- Each of the fields is absent from both objects, or spelled the same in both. -/
def FieldsRespell : List (String × Outline) → Fields → Fields → Prop
  | [], _, _ => True
  | (name, outline) :: rest, as, bs =>
    Option.Rel outline.Respells (as.lookup name) (bs.lookup name) ∧ FieldsRespell rest as bs

end

theorem Respells.refl (outline : Outline) (raw : Raw) : outline.Respells raw raw := by
  cases outline with
  | exact => rfl
  | integer | list element | record fields => exact .inl rfl

theorem eq_of_rel_exact {a b : Option Raw} (alike : Option.Rel exact.Respells a b) : a = b := by
  cases alike with
  | none => rfl
  | some same => exact congrArg some same

/-- What the other fields are does not matter. -/
theorem fieldsRespell_of_lookup {fields : List (String × Outline)} {as bs : Fields}
    (same : ∀ name ∈ fields.map Prod.fst, as.lookup name = bs.lookup name) :
    FieldsRespell fields as bs := by
  induction fields with
  | nil => exact trivial
  | cons field rest ih =>
    obtain ⟨name, outline⟩ := field
    refine ⟨?_, ih fun other listed => same other (List.mem_cons_of_mem _ listed)⟩
    rw [same name List.mem_cons_self]
    cases bs.lookup name with
    | none => exact .none
    | some raw => exact .some (Respells.refl outline raw)

end Outline

open Outline

/-- Values that spell the same by the outline read alike. -/
def Reader.GoesBy {α : Type} (read : Reader α) (outline : Outline) : Prop :=
  ∀ ⦃a b : Raw⦄, outline.Respells a b → read a = read b

namespace Reading

variable {α : Type} {read : Reader α}

theorem goesBy_exact (read : Reader α) : read.GoesBy .exact := fun _ _ same => congrArg read same

theorem goesBy_integer : Reader.GoesBy integer .integer := by
  rintro a b (rfl | ⟨n, left, right⟩)
  · rfl
  · rw [left, right]

theorem items_congr {element : Outline} (goes : read.GoesBy element) {as bs : List Raw}
    (alike : List.Forall₂ element.Respells as bs) (index : Nat) :
    items read index as = items read index bs := by
  induction alike generalizing index with
  | nil => rfl
  | cons first _ ih => rw [items, items, goes first, ih]

theorem goesBy_list {element : Outline} (goes : read.GoesBy element) :
    (list read).GoesBy (.list element) := by
  rintro a b (rfl | ⟨as, bs, rfl, rfl, alike⟩)
  · rfl
  · exact items_congr goes alike 0

theorem goesBy_record {read : Fields → Checked α} {fields : List (String × Outline)}
    (goes : ∀ as bs, FieldsRespell fields as bs → read as = read bs) :
    (record read).GoesBy (.record fields) := by
  rintro a b (rfl | ⟨as, bs, rfl, rfl, alike⟩)
  · rfl
  · exact goes as bs alike

variable {name : String} {outline : Outline} {as bs : Fields}

theorem required_congr (goes : read.GoesBy outline)
    (alike : Option.Rel outline.Respells (as.lookup name) (bs.lookup name)) :
    required name read as = required name read bs := by
  unfold required
  generalize as.lookup name = a, bs.lookup name = b at alike
  cases alike with
  | none => rfl
  | some same => exact congrArg (Checked.below (.field name)) (goes same)

theorem optional_congr {default : α} (goes : read.GoesBy outline)
    (alike : Option.Rel outline.Respells (as.lookup name) (bs.lookup name)) :
    optional name default read as = optional name default read bs := by
  unfold optional
  generalize as.lookup name = a, bs.lookup name = b at alike
  cases alike with
  | none => rfl
  | some same => exact congrArg (Checked.below (.field name)) (goes same)

end Reading

open Reading

namespace Outline

def reference : Outline := .record [("id", .integer)]

def groupSave : Outline := .record [("user_group", reference), ("user_ids", .list .integer)]

def edit : Outline := .record [("item", reference), ("change_type", .exact)]

def command : Outline :=
  .record [("region", .exact), ("operation", .exact), ("keys", .list .integer)]

end Outline

/-- The field that holds a payload of the form, if there is one. -/
def Form.outlines : Form → List (String × Outline)
  | .nothing => []
  | .entities => [("entities", .list .reference)]
  | .groups => [("entities", .list .groupSave)]
  | .trees | .schemas => [("changes", .list .edit)]

def Topic.outline (topic : Topic) : Outline := .record (("kind", .exact) :: topic.form.outlines)

def RecordClass.outline : RecordClass → Outline
  | reference => .reference
  | groupSave => .groupSave
  | treeEdit | schemaEdit => .edit
  | command => .command
  | notification topic => topic.outline

/-- The outline of a class has its fields, in the order of their declaration. -/
theorem RecordClass.exists_fields_of_outline (cls : RecordClass) :
    ∃ fields, cls.outline = .record fields ∧ fields.map Prod.fst = cls.fieldNames := by
  cases cls with
  | reference | groupSave | treeEdit | schemaEdit | command => exact ⟨_, rfl, rfl⟩
  | notification topic =>
    refine ⟨_, rfl, ?_⟩
    rw [fieldNames, List.map_cons]
    cases topic.form <;> rfl

/-- Objects that agree on the fields of a class spell the same record of it. -/
theorem RecordClass.respells_of_lookup {cls : RecordClass} {as bs : Fields}
    (same : ∀ name ∈ cls.fieldNames, as.lookup name = bs.lookup name) :
    cls.outline.Respells (.object as) (.object bs) := by
  obtain ⟨fields, outlined, names⟩ := cls.exists_fields_of_outline
  rw [outlined]
  exact .inr ⟨as, bs, rfl, rfl, fieldsRespell_of_lookup (names ▸ same)⟩

theorem Reference.goesBy_read : Reader.GoesBy Reference.read .reference :=
  goesBy_record fun as bs ⟨id, _⟩ => by rw [required_congr goesBy_integer id]

theorem GroupSave.goesBy_read : Reader.GoesBy GroupSave.read .groupSave :=
  goesBy_record fun as bs ⟨group, users, _⟩ => by
    rw [required_congr Reference.goesBy_read group,
      optional_congr (goesBy_list goesBy_integer) users]

theorem TreeEdit.goesBy_read : Reader.GoesBy TreeEdit.read .edit :=
  goesBy_record fun as bs ⟨item, action, _⟩ => by
    rw [required_congr Reference.goesBy_read item, required_congr (goesBy_exact word) action]

theorem SchemaEdit.goesBy_read : Reader.GoesBy SchemaEdit.read .edit :=
  goesBy_record fun as bs ⟨item, action, _⟩ => by
    rw [required_congr Reference.goesBy_read item, optional_congr (goesBy_exact word) action]

theorem Command.goesBy_read : Reader.GoesBy Command.read .command :=
  goesBy_record fun as bs ⟨region, operation, keys, _⟩ => by
    rw [required_congr (goesBy_exact word) region, required_congr (goesBy_exact word) operation,
      optional_congr (goesBy_list goesBy_integer) keys]

theorem Payload.read_congr {form : Form} {as bs : Fields}
    (alike : FieldsRespell form.outlines as bs) : Payload.read form as = Payload.read form bs := by
  cases form with
  | nothing => rfl
  | entities =>
    rw [Payload.read, Payload.read, optional_congr (goesBy_list Reference.goesBy_read) alike.1]
  | groups =>
    rw [Payload.read, Payload.read, optional_congr (goesBy_list GroupSave.goesBy_read) alike.1]
  | trees =>
    rw [Payload.read, Payload.read, optional_congr (goesBy_list TreeEdit.goesBy_read) alike.1]
  | schemas =>
    rw [Payload.read, Payload.read, optional_congr (goesBy_list SchemaEdit.goesBy_read) alike.1]

theorem Topic.readKind_congr {topic : Topic} {as bs : Fields}
    (same : as.lookup "kind" = bs.lookup "kind") : topic.readKind as = topic.readKind bs := by
  unfold readKind required Reading.optional
  rw [same]

theorem Notification.goesBy_read (topic : Topic) :
    Reader.GoesBy (Notification.read topic) topic.outline :=
  goesBy_record fun as bs ⟨kind, payload⟩ => by
    rw [Topic.readKind_congr (eq_of_rel_exact kind), Payload.read_congr payload]

/-- Values that spell the same by the outline of a class read alike as records of it. -/
theorem RecordClass.goesBy_read (cls : RecordClass) : Reader.GoesBy cls.read cls.outline := by
  intro a b alike
  cases cls with
  | reference => exact congrArg (Checked.map Record.reference) (Reference.goesBy_read alike)
  | groupSave => exact congrArg (Checked.map Record.groupSave) (GroupSave.goesBy_read alike)
  | treeEdit => exact congrArg (Checked.map Record.treeEdit) (TreeEdit.goesBy_read alike)
  | schemaEdit => exact congrArg (Checked.map Record.schemaEdit) (SchemaEdit.goesBy_read alike)
  | command => exact congrArg (Checked.map Record.command) (Command.goesBy_read alike)
  | notification topic =>
    exact congrArg (Checked.map Record.notification) (Notification.goesBy_read topic alike)

end Invalidation
