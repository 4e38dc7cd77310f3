import Mathlib.Data.List.Forall2
import Invalidation.Record.Dump
import Invalidation.Reading

/-!
# What reads as a value

A list reads as what its elements read as (`items_eq_valid_iff`), a word only in the spelling in
which it is written (`word_eq_valid_iff`), and a field as its raw value does.
-/

set_option autoImplicit false

namespace Invalidation.Reading

/-- A list reads as the values that its elements read as one by one. -/
theorem items_eq_valid_iff {α : Type} {read : Reader α} {index : Nat} {raws : List Raw}
    {values : List α} :
    items read index raws = .valid values ↔
      List.Forall₂ (fun raw value => read raw = .valid value) raws values := by
  induction raws generalizing index values with
  | nil => cases values <;> simp [items]
  | cons raw rest ih =>
    rw [items, Checked.map_eq_valid_iff]
    simp only [Checked.both_eq_valid_iff, Checked.below_eq_valid_iff, ih]
    cases values with
    | nil => simp
    | cons value more => simp [Prod.exists]

/-- A list reads as the values that its elements were written from. -/
theorem list_map_eq_valid {α : Type} {read : Reader α} {write : α → Raw}
    (reads : ∀ value, read (write value) = .valid value) (values : List α) :
    list read (.list (values.map write)) = .valid values := by
  refine items_eq_valid_iff.2 ?_
  rw [List.forall₂_map_left_iff, List.forall₂_same]
  exact fun value _ => reads value

theorem word_ofWord {α : Type} [Coded α] (a : α) :
    (word (Raw.ofWord a) : Checked α) = .valid a := by
  simp [word, Raw.ofWord, Checked.orFlaw]

theorem required_eq_valid {α : Type} {name : String} {read : Reader α} {fields : Fields}
    {raw : Raw} {value : α} (given : fields.lookup name = some raw)
    (reads : read raw = .valid value) : required name read fields = .valid value := by
  rw [required, given]
  exact Checked.below_eq_valid_iff.2 reads

theorem optional_eq_valid {α : Type} {name : String} {default : α} {read : Reader α}
    {fields : Fields} {raw : Raw} {value : α} (given : fields.lookup name = some raw)
    (reads : read raw = .valid value) : optional name default read fields = .valid value := by
  rw [optional, given]
  exact Checked.below_eq_valid_iff.2 reads

/-- Only what is written as a word reads as one. -/
theorem word_eq_valid_iff {α : Type} [Coded α] {raw : Raw} {a : α} :
    (word raw : Checked α) = .valid a ↔ raw = .ofWord a := by
  constructor
  · intro reads
    cases raw with
    | text s =>
      simp only [word, Checked.orFlaw] at reads
      split at reads
      next value found =>
        obtain rfl : value = a := Checked.valid.inj reads
        rw [← Coded.code_eq_of_ofCode? found]
        rfl
      next => cases reads
    | _ => cases reads
  · rintro rfl
    exact word_ofWord a

theorem atLeast_eq_valid_iff {bound : Nat} {raw : Raw} {value : { n : Nat // bound ≤ n }} :
    atLeast bound raw = .valid value ↔ integer raw = .valid value.val := by
  obtain ⟨value, bounded⟩ := value
  unfold atLeast
  cases integer raw with
  | faulty first more => simp [Checked.andThen]
  | valid n =>
    simp only [Checked.andThen, Checked.valid.injEq]
    split
    next => simp only [Checked.valid.injEq, Subtype.mk.injEq]; omega
    next short =>
      refine iff_of_false (fun read => ?_) (by omega)
      cases read

theorem text_eq_valid_iff {raw : Raw} {s : String} : text raw = .valid s ↔ raw = .text s := by
  cases raw <;> simp [text, Checked.flaw]

end Invalidation.Reading
