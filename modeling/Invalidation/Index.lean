import Invalidation.Failure

/-!
# Indexes

An index names an element of a row: it counts from the front, or from the end if it is negative. It
is given as a raw value, which must be an integer that fits into a word.

Source: how `DistributedCacheBinder.bindings` and `ClusterMessenger.nodes` are indexed.
-/

set_option autoImplicit false

namespace Invalidation.Index

/-- The place that an integer points to in a row of so many elements, if there is one. -/
def place? (size : Nat) (n : Int) : Option (Fin size) :=
  let place := if n < 0 then n + size else n
  if h : 0 ≤ place ∧ place < size then some ⟨place.toNat, by omega⟩ else none

def resolve (size : Nat) (index : Raw) : Except Failure (Fin size) :=
  match index.integer? with
  | .error found => .error (.notIndex found)
  | .ok n =>
    if n < -Reading.wordBound ∨ Reading.wordBound ≤ n then .error .indexTooLarge
    else
      match place? size n with
      | some place => .ok place
      | none => .error .outOfRange

end Invalidation.Index
