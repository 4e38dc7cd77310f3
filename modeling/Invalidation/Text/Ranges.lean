/-!
# Ranges of code points

A property of characters is given by the ranges of code points that have it.
-/

set_option autoImplicit false

namespace Invalidation.Text

/-- Ranges of code points, ends included. -/
abbrev Ranges := List (Nat × Nat)

def Ranges.hold (ranges : Ranges) (point : Nat) : Bool :=
  ranges.any fun (low, high) => low ≤ point && point ≤ high

end Invalidation.Text
