import Mathlib.Data.List.Count
import Mathlib.Data.List.Nodup
import Invalidation.Binder

/-!
# Attachments of the router

The router is one handler for all binders, so its subscriptions to a class cannot be told apart and
only their number counts. A binder that starts adds one to every bound topic, and one that stops
takes one back. `Wired` says what number that leaves: the bus and the binders that share it agree
if every bound topic has the router as often as binders are bound, and other classes not at all.
-/

set_option autoImplicit false

namespace Invalidation

def RecordClass.bound : List RecordClass := Topic.bound.map .notification

theorem RecordClass.notification_mem_bound {topic : Topic} :
    RecordClass.notification topic ∈ RecordClass.bound ↔ topic ∈ Topic.bound :=
  List.mem_map_of_injective fun _ _ => RecordClass.notification.inj

theorem RecordClass.count_bound (cls : RecordClass) :
    RecordClass.bound.count cls = if cls ∈ RecordClass.bound then 1 else 0 :=
  (Topic.nodup_bound.map fun _ _ => RecordClass.notification.inj).count

namespace Bus

theorem count_handlers (bus : Bus) (cls : RecordClass) (handler : Handler) :
    (bus.handlers cls).count handler = bus.subscriptions.count (cls, handler) := by
  rw [handlers, List.count, List.countP_map, List.countP_filter, List.count]
  refine List.countP_congr fun subscription _ => ?_
  simp [Prod.ext_iff, and_comm]

theorem count_subscribe (bus : Bus) (cls other : RecordClass) (handler counted : Handler) :
    ((bus.subscribe cls handler).handlers other).count counted =
      (bus.handlers other).count counted + if cls = other ∧ handler = counted then 1 else 0 := by
  simp [count_handlers, subscribe, List.count_append, List.count_singleton]

theorem count_unsubscribe (bus : Bus) (cls other : RecordClass) (handler counted : Handler) :
    ((bus.unsubscribe cls handler).handlers other).count counted =
      (bus.handlers other).count counted - if cls = other ∧ handler = counted then 1 else 0 := by
  simp [count_handlers, unsubscribe, List.count_erase]

/-- What is attached stands behind what was there. -/
theorem attachAll_eq (topics : List Topic) (bus : Bus) :
    topics.foldl (fun bus topic => bus.attach topic) bus =
      ⟨bus.subscriptions ++ topics.map fun topic => (.notification topic, .router)⟩ := by
  induction topics generalizing bus with
  | nil => simp
  | cons topic rest ih =>
    rw [List.foldl_cons, ih]
    simp [attach, subscribe]

/-- What stands in front is detached again. -/
theorem detachAll_eq (topics : List Topic) (rest : List (RecordClass × Handler)) :
    topics.foldl (fun (bus : Bus) topic => bus.detach topic)
        ⟨(topics.map fun topic => (.notification topic, .router)) ++ rest⟩ = ⟨rest⟩ := by
  induction topics with
  | nil => rfl
  | cons topic others ih =>
    rw [List.foldl_cons, List.map_cons, List.cons_append, detach, unsubscribe,
      List.erase_cons_head]
    exact ih

/-- Each attachment to the class counts, on top of those that were there. -/
theorem count_attachAll (topics : List Topic) (bus : Bus) (cls : RecordClass) :
    ((topics.foldl (fun bus topic => bus.attach topic) bus).handlers cls).count .router =
      (bus.handlers cls).count .router + (topics.map .notification).count cls := by
  induction topics generalizing bus with
  | nil => simp
  | cons topic rest ih =>
    rw [List.foldl_cons, ih, attach, count_subscribe, List.map_cons, List.count_cons]
    simp [Nat.add_comm, Nat.add_left_comm]

/-- Each detachment from the class takes one away, as long as there are any. -/
theorem count_detachAll (topics : List Topic) (bus : Bus) (cls : RecordClass) :
    ((topics.foldl (fun bus topic => bus.detach topic) bus).handlers cls).count .router =
      (bus.handlers cls).count .router - (topics.map .notification).count cls := by
  induction topics generalizing bus with
  | nil => simp
  | cons topic rest ih =>
    rw [List.foldl_cons, ih, detach, count_unsubscribe, List.map_cons, List.count_cons]
    simp [Nat.sub_sub, Nat.add_comm]

end Bus

namespace Binder

variable {binder after : Binder} {bus left : Bus}

theorem start_eq_ok_iff {teardown : Bool} :
    binder.start teardown bus = .ok (after, left) ↔
      binder.bound = false ∧ after = ⟨true, if teardown then some Topic.bound else none⟩ ∧
        left = Topic.bound.foldl (fun bus topic => bus.attach topic) bus := by
  unfold start
  cases binder.bound <;> simp [eq_comm]

theorem start_of_bound {teardown : Bool} (bound : binder.bound = true) :
    binder.start teardown bus = .error .alreadyBound :=
  if_pos bound

theorem start_of_unbound (teardown : Bool) (bus : Bus) (unbound : binder.bound = false) :
    ∃ after left, binder.start teardown bus = .ok (after, left) :=
  ⟨_, _, start_eq_ok_iff.2 ⟨unbound, rfl, rfl⟩⟩

theorem stop_eq_ok_iff :
    binder.stop bus = .ok (after, left) ↔
      ∃ topics, binder.detachments = some topics ∧ after = .new ∧
        left = topics.foldl (fun bus topic => bus.detach topic) bus := by
  unfold stop
  cases binder.detachments <;> simp [eq_comm, new]

theorem stop_of_released (released : binder.detachments = none) :
    binder.stop bus = .error .nothingRetained := by
  rw [stop, released]

theorem stop_of_retaining (bus : Bus) (retains : binder.detachments ≠ none) :
    ∃ after left, binder.stop bus = .ok (after, left) := by
  obtain ⟨topics, retained⟩ := Option.ne_none_iff_exists'.1 retains
  exact ⟨_, _, stop_eq_ok_iff.2 ⟨topics, retained, rfl, rfl⟩⟩

end Binder

/-- The bus and the binders that share it agree. -/
structure Wired (bus : Bus) (binders : List Binder) : Prop where
  /-- A bound topic has the router as often as binders are bound, and no other class has it. -/
  attached : ∀ cls, (bus.handlers cls).count .router =
    if cls ∈ RecordClass.bound then binders.countP Binder.bound else 0
  /-- A binder only retains detachments while it is bound, and then those from all bound topics. -/
  retained : ∀ binder ∈ binders, ∀ topics, binder.detachments = some topics →
    binder.bound = true ∧ topics = Topic.bound

namespace Wired

variable {bus left : Bus} {binders : List Binder} {place : Nat} {binder after : Binder}

/-- At rest nothing is attached and no binder bound. -/
theorem rest (count : Nat) : Wired .empty (List.replicate count .new) where
  attached cls := by simp [Bus.handlers, Bus.empty, List.countP_replicate, Binder.new]
  retained binder member topics retains := by
    rw [List.eq_of_mem_replicate member] at retains
    cases retains

theorem start (wired : Wired bus binders) (here : binders[place]? = some binder) {teardown : Bool}
    (started : binder.start teardown bus = .ok (after, left)) :
    Wired left (binders.set place after) := by
  obtain ⟨inside, rfl⟩ := List.getElem?_eq_some_iff.1 here
  obtain ⟨unbound, rfl, rfl⟩ := Binder.start_eq_ok_iff.1 started
  constructor
  · intro cls
    rw [Bus.count_attachAll, wired.attached, ← RecordClass.bound, RecordClass.count_bound,
      List.countP_set inside, unbound]
    split <;> simp
  · intro other member topics retains
    rcases List.mem_or_eq_of_mem_set member with old | rfl
    · exact wired.retained other old topics retains
    · cases teardown with
      | false => cases retains
      | true => exact ⟨rfl, (Option.some.inj retains).symm⟩

theorem stop (wired : Wired bus binders) (here : binders[place]? = some binder)
    (stopped : binder.stop bus = .ok (after, left)) : Wired left (binders.set place after) := by
  obtain ⟨inside, rfl⟩ := List.getElem?_eq_some_iff.1 here
  obtain ⟨topics, retains, rfl, rfl⟩ := Binder.stop_eq_ok_iff.1 stopped
  obtain ⟨bound, rfl⟩ := wired.retained _ (List.getElem_mem inside) topics retains
  constructor
  · intro cls
    rw [Bus.count_detachAll, wired.attached, ← RecordClass.bound, RecordClass.count_bound,
      List.countP_set inside, bound]
    split <;> simp [Binder.new]
  · intro other member others retains
    rcases List.mem_or_eq_of_mem_set member with old | rfl
    · exact wired.retained other old others retains
    · cases retains

theorem subscribe (wired : Wired bus binders) (cls : RecordClass) (probe : String) :
    Wired (bus.subscribe cls (.probe probe)) binders where
  attached other := by simp [Bus.count_subscribe, wired.attached]
  retained := wired.retained

theorem unsubscribe (wired : Wired bus binders) (cls : RecordClass) (probe : String) :
    Wired (bus.unsubscribe cls (.probe probe)) binders where
  attached other := by simp [Bus.count_unsubscribe, wired.attached]
  retained := wired.retained

end Wired

end Invalidation
