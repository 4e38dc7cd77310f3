import Invalidation.Reading

/-!
# What is wrong with a raw value

A single value has at most one defect (`Checked.Plain`), and a list has the faults of its elements,
each with its place (`Reading.faults_items`).
-/

set_option autoImplicit false

namespace Invalidation

namespace Checked

variable {α β : Type}

def defect? : Checked α → Option Defect
  | .valid _ => none
  | .faulty first _ => some first.defect

/-- At most one defect was found, and that in the value itself. -/
def Plain (check : Checked α) : Prop := check.faults = (check.defect?.map (Fault.mk [])).toList

theorem plain_valid (value : α) : (valid value).Plain := rfl

theorem plain_flaw (defect : Defect) : (flaw defect : Checked α).Plain := rfl

theorem Plain.ite {yes no : Checked α} (plain : yes.Plain) (other : no.Plain) (condition : Prop)
    [Decidable condition] : (if condition then yes else no).Plain := by
  split
  · exact plain
  · exact other

theorem plain_orFlaw (defect : Defect) (found : Option α) : (orFlaw defect found).Plain := by
  cases found with
  | none => exact plain_flaw defect
  | some value => exact plain_valid value

theorem defect?_eq_none_iff {check : Checked α} :
    check.defect? = none ↔ ∃ value, check = .valid value := by
  cases check <;> simp [defect?]

theorem faults_below_of_plain {check : Checked α} (plain : check.Plain) (hop : Hop) :
    (check.below hop).faults = (check.defect?.map (Fault.mk [hop])).toList := by
  rw [faults_below, plain]
  cases check.defect? <;> rfl

end Checked

namespace Reading

theorem plain_whole (q : Rat) : (whole q).Plain :=
  .ite (Checked.plain_flaw _) (.ite (Checked.plain_valid _) (Checked.plain_flaw _) _) _

theorem plain_numeral (s : String) : (numeral s).Plain := by
  unfold numeral
  split
  · exact Checked.plain_valid _
  · exact Checked.plain_flaw _
  · exact Checked.plain_flaw _

theorem plain_integer (raw : Raw) : (integer raw).Plain := by
  cases raw with
  | real q => exact plain_whole q
  | text s => exact plain_numeral s
  | bool value | int value => exact Checked.plain_valid _
  | minusZero => exact Checked.plain_valid _
  | infinite negative | list values | object fields | null => exact Checked.plain_flaw _

theorem plain_atLeast (bound : Nat) (raw : Raw) : (atLeast bound raw).Plain := by
  have plain := plain_integer raw
  unfold atLeast
  cases found : integer raw with
  | valid n =>
    simp only [Checked.andThen]
    split
    · exact Checked.plain_valid _
    · exact Checked.plain_flaw _
  | faulty first more =>
    rw [found] at plain
    exact plain

theorem plain_bit (n : Int) : (bit n).Plain :=
  .ite (Checked.plain_valid _) (.ite (Checked.plain_valid _) (Checked.plain_flaw _) _) _

theorem plain_boolean (raw : Raw) : (boolean raw).Plain := by
  cases raw with
  | int n => exact .ite (plain_bit n) (Checked.plain_flaw _) _
  | real q =>
    rw [boolean]
    split
    · exact plain_bit _
    · exact Checked.plain_flaw _
  | text s => exact Checked.plain_orFlaw _ _
  | bool value => exact Checked.plain_valid _
  | minusZero => exact Checked.plain_valid _
  | infinite negative | list values | object fields | null => exact Checked.plain_flaw _

theorem plain_text (raw : Raw) : (text raw).Plain := by
  cases raw with
  | text s => exact Checked.plain_valid _
  | _ => exact Checked.plain_flaw _

/-- A list has a fault for every element that does not read, in order. -/
theorem faults_items {α : Type} {read : Reader α} (plain : ∀ raw, (read raw).Plain) (index : Nat)
    (raws : List Raw) :
    (items read index raws).faults = (raws.zipIdx index).filterMap fun (raw, place) =>
      (read raw).defect?.map (Fault.mk [.item place]) := by
  induction raws generalizing index with
  | nil => rfl
  | cons raw rest ih =>
    rw [items, Checked.faults_map, Checked.faults_both, ih,
      Checked.faults_below_of_plain (plain raw), List.zipIdx_cons]
    cases found : (read raw).defect? with
    | none => simp [found]
    | some defect => simp [found]

end Reading

end Invalidation
