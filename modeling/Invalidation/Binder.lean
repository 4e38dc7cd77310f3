import Invalidation.Bus
import Invalidation.Failure

/-!
# Binders

A binder attaches the router to every bound topic when it is started. Only if it is asked to
does it retain the detachments, and only then can it be stopped. A binder must not be started
while it is bound; starting and stopping in a state that does not allow it changes nothing.

Source: `DistributedCacheBinder` and `Binding`.
-/

set_option autoImplicit false

namespace Invalidation

namespace Bus

def attach (topic : Topic) (bus : Bus) : Bus := bus.subscribe (.notification topic) .router

def detach (topic : Topic) (bus : Bus) : Bus := bus.unsubscribe (.notification topic) .router

end Bus

structure Binder where
  bound : Bool
  /-- The topics to detach from when the binder is stopped, if it retains them. -/
  detachments : Option (List Topic)
  deriving DecidableEq, Repr

namespace Binder

def new : Binder := ⟨false, none⟩

def start (teardown : Bool) (binder : Binder) (bus : Bus) : Except Failure (Binder × Bus) :=
  if binder.bound then .error .alreadyBound
  else
    .ok (⟨true, if teardown then some Topic.bound else none⟩,
      Topic.bound.foldl (fun bus topic => bus.attach topic) bus)

/-- Detaches the router from the retained topics, in the order in which it was attached. -/
def stop (binder : Binder) (bus : Bus) : Except Failure (Binder × Bus) :=
  match binder.detachments with
  | none => .error .nothingRetained
  | some topics => .ok (⟨false, none⟩, topics.foldl (fun bus topic => bus.detach topic) bus)

end Binder

end Invalidation
