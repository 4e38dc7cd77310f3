import Invalidation.Failure

/-!
# Attempts

An attempt is an action on a state that may fail. Unlike a transaction it keeps what it did
before it failed. `onPart` carries an attempt over from a part of a state to the whole.
-/

set_option autoImplicit false

namespace Invalidation

/-- An action on a state that may fail. What it did before it failed is kept. -/
abbrev Attempt (σ α : Type) := EStateM Failure σ α

namespace Attempt

variable {σ τ α β : Type}

def ofChecked : Checked α → Attempt σ α
  | .valid value => pure value
  | .faulty first more => throw (.invalid first more)

def ofExcept : Except Failure α → Attempt σ α
  | .ok value => pure value
  | .error failure => throw failure

/-- Carries out an action on a part of the state, given how a changed part is put back. -/
def onPart (part : σ → τ) (replace : σ → τ → σ) (action : Attempt τ α) : Attempt σ α := fun s =>
  match action (part s) with
  | .ok value t => .ok value (replace s t)
  | .error failure t => .error failure (replace s t)

theorem bind_apply (action : Attempt σ α) (next : α → Attempt σ β) (s : σ) :
    (action >>= next) s =
      match action s with
      | .ok value t => next value t
      | .error failure t => .error failure t := by
  change EStateM.bind action next s = _
  unfold EStateM.bind
  cases action s <;> rfl

theorem bind_eq_ok_iff {action : Attempt σ α} {next : α → Attempt σ β} {s u : σ} {result : β} :
    (action >>= next) s = .ok result u ↔
      ∃ value t, action s = .ok value t ∧ next value t = .ok result u := by
  rw [bind_apply]
  cases action s with
  | error failure t => exact iff_of_false nofun nofun
  | ok value t =>
    refine ⟨fun done => ⟨value, t, rfl, done⟩, ?_⟩
    rintro ⟨_, _, same, done⟩
    cases same
    exact done

theorem ofExcept_eq_ok_iff {value : Except Failure α} {result : α} {s t : σ} :
    ofExcept value s = .ok result t ↔ value = .ok result ∧ s = t := by
  cases value with
  | error failure => exact iff_of_false nofun fun done => nomatch done.1
  | ok found =>
    have opened : (ofExcept (.ok found) : Attempt σ α) s = .ok found s := rfl
    rw [opened, EStateM.Result.ok.injEq, Except.ok.injEq]

/-- The same end of an action, with another answer if it did not fail. -/
def answering (answer : β) : EStateM.Result Failure σ α → EStateM.Result Failure σ β
  | .ok _ t => .ok answer t
  | .error failure t => .error failure t

theorem answer_apply (action : Attempt σ α) (answer : β) (s : σ) :
    (action >>= fun _ => pure answer) s = answering answer (action s) := by
  rw [bind_apply]
  cases action s <;> rfl

theorem answering_eq_ok_iff {answer other : β} {ended : EStateM.Result Failure σ Unit} {t : σ} :
    answering answer ended = .ok other t ↔ answer = other ∧ ended = .ok () t := by
  cases ended <;> simp [answering]

theorem forM_cons_apply (act : α → Attempt σ Unit) (value : α) (rest : List α) (s : σ) :
    (value :: rest).forM act s =
      match act value s with
      | .ok _ t => rest.forM act t
      | .error failure t => .error failure t := by
  change (act value >>= fun _ => rest.forM act) s = _
  rw [bind_apply]
  cases act value s <;> rfl

end Attempt

end Invalidation
