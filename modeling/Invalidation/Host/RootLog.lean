import Invalidation.Attempt
import Invalidation.Host.Threshold

/-!
# The root log

All hosts of a process write their log through one root, which outlives each of them. Setting the
log up does something only as long as the root leads nowhere, and it adds a handler before it looks
at the level. So it does not fail twice, and a level that is asked for later is passed over.

Source: `_setup_logging`, and `logging.basicConfig` as it is called there, without `force`. The
handler, its stream and the layout of its lines are not modelled.
-/

set_option autoImplicit false

namespace Invalidation

structure RootLog where
  /-- Whether the root has a handler. -/
  configured : Bool
  threshold : Nat
  deriving DecidableEq, Repr

namespace RootLog

/-- The root of a process that has not set its log up. It only lets warnings through. -/
def initial : RootLog := ⟨false, 30⟩

/-- Sets the log up with the level that a text names. -/
def configure (level : String) : Attempt RootLog Unit := do
  unless (← get).configured do
    modify fun root => { root with configured := true }
    let threshold ← Attempt.ofExcept (Threshold.ofText level)
    modify fun root => { root with threshold := threshold }

end RootLog

end Invalidation
