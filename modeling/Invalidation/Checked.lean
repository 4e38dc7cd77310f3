/-!
# Checked values

Checking a raw value gives either the value it stands for or every fault found in it, at
least one. Two checks are combined with `both`, which keeps the faults of both in order, so a
report is complete: `faults_both` says that nothing is lost, and `both_eq_valid_iff` that a
pair is valid exactly when both parts are.

Source: the errors that validating a `BaseModel` or `BinderSettings` collects. Their messages are
not modelled.
-/

set_option autoImplicit false

namespace Invalidation

inductive Defect where
  | missing | notRecord | notList | unknownWord | wrongKind
  | notInteger | unreadableInteger | oversized | fractional | notFinite
  | notBoolean | unreadableBoolean | notText
  | belowBound | unknownField | immutable
  deriving DecidableEq, Repr

/-- One step of the way to a value inside a record. -/
inductive Hop where
  | field (name : String)
  | item (index : Nat)
  deriving DecidableEq, Repr

/-- A defect and the way to it from the value that was checked. -/
structure Fault where
  path : List Hop
  defect : Defect
  deriving DecidableEq, Repr

def Fault.below (hop : Hop) (fault : Fault) : Fault := { fault with path := hop :: fault.path }

/-- A value, or the faults that were found instead, of which there is at least one. -/
inductive Checked (α : Type) where
  | valid (value : α)
  | faulty (first : Fault) (more : List Fault)
  deriving DecidableEq, Repr

namespace Checked

variable {α β γ : Type}

/-- A single defect of the value itself. -/
def flaw (defect : Defect) : Checked α := .faulty ⟨[], defect⟩ []

def orFlaw (defect : Defect) : Option α → Checked α
  | some value => .valid value
  | none => flaw defect

def faults : Checked α → List Fault
  | .valid _ => []
  | .faulty first more => first :: more

def map (f : α → β) : Checked α → Checked β
  | .valid value => .valid (f value)
  | .faulty first more => .faulty first more

def andThen (check : Checked α) (next : α → Checked β) : Checked β :=
  match check with
  | .valid value => next value
  | .faulty first more => .faulty first more

/-- Both values, or the faults of the first check followed by those of the second. -/
def both : Checked α → Checked β → Checked (α × β)
  | .valid a, .valid b => .valid (a, b)
  | .valid _, .faulty first more => .faulty first more
  | .faulty first more, .valid _ => .faulty first more
  | .faulty first more, .faulty first' more' => .faulty first (more ++ first' :: more')

/-- The same check, with its faults reported one hop further down. -/
def below (hop : Hop) : Checked α → Checked α
  | .valid value => .valid value
  | .faulty first more => .faulty (first.below hop) (more.map (Fault.below hop))

theorem faults_eq_nil_iff {check : Checked α} : check.faults = [] ↔ ∃ a, check = .valid a := by
  cases check <;> simp [faults]

@[simp] theorem faults_both (a : Checked α) (b : Checked β) :
    (both a b).faults = a.faults ++ b.faults := by
  cases a <;> cases b <;> simp [both, faults]

theorem both_eq_valid_iff {a : Checked α} {b : Checked β} {p : α × β} :
    both a b = .valid p ↔ a = .valid p.1 ∧ b = .valid p.2 := by
  cases a <;> cases b <;> simp [both, Prod.ext_iff]

@[simp] theorem faults_map (f : α → β) (check : Checked α) :
    (check.map f).faults = check.faults := by
  cases check <;> rfl

@[simp] theorem faults_below (hop : Hop) (check : Checked α) :
    (check.below hop).faults = check.faults.map (Fault.below hop) := by
  cases check <;> rfl

theorem map_eq_valid_iff {f : α → β} {check : Checked α} {b : β} :
    check.map f = .valid b ↔ ∃ a, check = .valid a ∧ f a = b := by
  cases check <;> simp [map]

theorem below_eq_valid_iff {hop : Hop} {check : Checked α} {a : α} :
    check.below hop = .valid a ↔ check = .valid a := by
  cases check <;> simp [below]

end Checked

end Invalidation
