import Invalidation.Command

/-!
# Journals

A journal keeps the most recent commands, oldest first, up to its bound. A journal without a
bound keeps all of them, and one with the bound zero none.

Source: `ClusterMessenger.journal` and what it reads.
-/

set_option autoImplicit false

namespace Invalidation

/-- The last elements of a list, as many as the bound allows. -/
def keepLast {α : Type} (bound : Option Nat) (xs : List α) : List α :=
  match bound with
  | some n => xs.drop (xs.length - n)
  | none => xs

theorem length_keepLast_le {α : Type} {bound : Option Nat} {n : Nat} (h : bound = some n)
    (xs : List α) : (keepLast bound xs).length ≤ n := by
  subst h
  simp only [keepLast, List.length_drop]
  omega

structure Journal where
  bound : Option Nat
  commands : List Command
  within : ∀ n, bound = some n → commands.length ≤ n

namespace Journal

def empty (bound : Option Nat) : Journal := ⟨bound, [], by simp⟩

/-- Adds a command behind all others and forgets the oldest one if the bound is passed. -/
def record (command : Command) (journal : Journal) : Journal where
  bound := journal.bound
  commands := keepLast journal.bound (journal.commands ++ [command])
  within _ h := length_keepLast_le h _

end Journal

end Invalidation
