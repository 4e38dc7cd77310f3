import Invalidation.Text.Casing

/-!
# Letter case in ASCII

The rows of the table of lower-case forms lie outside ASCII but for the first one, which is that of
the capital letters. So a text in ASCII is put into lower case letter by letter
(`Text.lower_of_ascii`).
-/

set_option autoImplicit false

namespace Invalidation.Text

theorem find?_lowercaseRows {point : Nat} (ascii : point < 128) :
    (lowercaseRows.find? fun (first, last, step, _) =>
      first ≤ point && point ≤ last && (point - first) % step == 0) =
        if 0x41 ≤ point ∧ point ≤ 0x5A then some (0x41, 0x5A, 1, 0x61) else none := by
  have outside : ∀ row ∈ lowercaseRows.tail, 128 ≤ row.1 := by decide +kernel
  have others : (lowercaseRows.tail.find? fun (first, last, step, _) =>
      first ≤ point && point ≤ last && (point - first) % step == 0) = none := by
    refine List.find?_eq_none.2 fun row listed => ?_
    have far := outside row listed
    simp only [Bool.and_eq_true, decide_eq_true_eq, not_and]
    omega
  rw [show lowercaseRows = (0x41, 0x5A, 1, 0x61) :: lowercaseRows.tail from rfl, List.find?_cons,
    others]
  by_cases capital : 0x41 ≤ point ∧ point ≤ 0x5A
  · simp [capital, Nat.mod_one]
  · have small : (decide (0x41 ≤ point) && decide (point ≤ 0x5A)) = false := by simpa using capital
    simp only [if_neg capital, small, Bool.false_and]

theorem lowercase_of_ascii {c : Char} (ascii : c.toNat < 128) : lowercase c = [c.toLower] := by
  have table : ∀ n : Fin 128, Char.ofNat n ≠ '\u0130' ∧
      (if 0x41 ≤ n.val ∧ n.val ≤ 0x5A then Char.ofNat (0x61 + (n.val - 0x41)) else Char.ofNat n) =
        (Char.ofNat n).toLower := by decide +kernel
  obtain ⟨undotted, entry⟩ := table ⟨c.toNat, ascii⟩
  rw [Char.ofNat_toNat] at undotted entry
  rw [lowercase, if_neg undotted, ← entry]
  simp only [find?_lowercaseRows ascii]
  split <;> rfl

theorem loweredFrom_of_ascii {cs : List Char} (ascii : ∀ c ∈ cs, c.toNat < 128)
    (before : List Char) : loweredFrom before cs = cs.map Char.toLower := by
  induction cs generalizing before with
  | nil => rfl
  | cons c rest ih =>
    obtain ⟨first, others⟩ := List.forall_mem_cons.1 ascii
    have other : (c == '\u03a3') = false := by
      refine beq_eq_false_iff_ne.2 ?_
      rintro rfl
      exact absurd first (by decide)
    rw [loweredFrom, other, ih others, lowercase_of_ascii first]
    rfl

/-- In ASCII only the capital letters have another lower-case form. -/
theorem lower_of_ascii {s : String} (ascii : s.toList.all fun c => c.toNat < 128) :
    lower s = String.ofList (s.toList.map Char.toLower) := by
  refine congrArg String.ofList (loweredFrom_of_ascii (fun c listed => ?_) [])
  exact of_decide_eq_true (List.all_eq_true.1 ascii c listed)

end Invalidation.Text
