import Invalidation.Journal

/-!
# What a journal keeps

Recording commands one after another cuts the journal to its bound each time. That leaves what
cutting once, at the end, would leave (`commands_recordAll`), because of a list that was cut before
the end is what it was (`keepLast_keepLast_append`).
-/

set_option autoImplicit false

namespace Invalidation

/-- The last elements of a list that goes on are those of its own last elements, going on. -/
theorem keepLast_keepLast_append {α : Type} (bound : Option Nat) (xs ys : List α) :
    keepLast bound (keepLast bound xs ++ ys) = keepLast bound (xs ++ ys) := by
  cases bound with
  | none => rfl
  | some n =>
    simp only [keepLast, List.length_append, List.length_drop]
    have cut : xs.length - n ≤ xs.length := Nat.sub_le _ _
    have twice : xs.length + ys.length - n =
        (xs.length - n) + (xs.length - (xs.length - n) + ys.length - n) := by omega
    rw [twice, ← List.drop_drop, List.drop_append_of_le_length cut]

theorem keepLast_of_within {α : Type} {bound : Option Nat} {xs : List α}
    (within : ∀ n, bound = some n → xs.length ≤ n) : keepLast bound xs = xs := by
  cases bound with
  | none => rfl
  | some n => rw [keepLast, Nat.sub_eq_zero_of_le (within n rfl), List.drop_zero]

namespace Journal

def recordAll (commands : List Command) (journal : Journal) : Journal :=
  commands.foldl (fun journal command => journal.record command) journal

theorem recordAll_append (first second : List Command) (journal : Journal) :
    journal.recordAll (first ++ second) = (journal.recordAll first).recordAll second := by
  simp [recordAll]

theorem bound_recordAll (commands : List Command) (journal : Journal) :
    (journal.recordAll commands).bound = journal.bound := by
  induction commands generalizing journal with
  | nil => rfl
  | cons command rest ih => exact ih (journal.record command)

/-- A journal keeps the last of all commands, as many as its bound allows. -/
theorem commands_recordAll (commands : List Command) (journal : Journal) :
    (journal.recordAll commands).commands =
      keepLast journal.bound (journal.commands ++ commands) := by
  induction commands generalizing journal with
  | nil =>
    rw [List.append_nil, keepLast_of_within journal.within]
    rfl
  | cons command rest ih =>
    calc (journal.recordAll (command :: rest)).commands
        = keepLast journal.bound
            (keepLast journal.bound (journal.commands ++ [command]) ++ rest) :=
          ih (journal.record command)
      _ = keepLast journal.bound (journal.commands ++ command :: rest) := by
          rw [keepLast_keepLast_append, List.append_assoc, List.singleton_append]

end Journal

end Invalidation
