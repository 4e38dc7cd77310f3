import Invalidation.Record

/-!
# The bus

Handlers subscribe to a class of records and are called, in the order of their subscriptions,
with every record of exactly that class. A handler may subscribe more than once and is then
called as often; unsubscribing takes back its oldest subscription, if it has one.

Source: `EventBus`. Handlers are the router and probes, which have a program of their own.
-/

set_option autoImplicit false

namespace Invalidation

inductive Handler where
  /-- Handles notifications on the sink. It is the same handler for all binders. -/
  | router
  /-- An observer with a program of its own. -/
  | probe (name : String)
  deriving DecidableEq, Repr

structure Bus where
  /-- All subscriptions, the oldest first. -/
  subscriptions : List (RecordClass × Handler)
  deriving DecidableEq, Repr

namespace Bus

def empty : Bus := ⟨[]⟩

def subscribe (cls : RecordClass) (handler : Handler) (bus : Bus) : Bus :=
  ⟨bus.subscriptions ++ [(cls, handler)]⟩

def unsubscribe (cls : RecordClass) (handler : Handler) (bus : Bus) : Bus :=
  ⟨bus.subscriptions.erase (cls, handler)⟩

def handlers (bus : Bus) (cls : RecordClass) : List Handler :=
  (bus.subscriptions.filter fun subscription => subscription.1 == cls).map Prod.snd

def size (bus : Bus) : Nat := bus.subscriptions.length

theorem handlers_subscribe (bus : Bus) (cls other : RecordClass) (handler : Handler) :
    (bus.subscribe cls handler).handlers other =
      bus.handlers other ++ if cls = other then [handler] else [] := by
  by_cases h : cls = other <;> simp [handlers, subscribe, h]

end Bus

end Invalidation
