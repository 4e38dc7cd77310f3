import Invalidation.Proofs.World.Lifecycle

/-!
# What steps do to the bus

Every step that only concerns the bus and the binders comes to a row of `Rewiring`s, each of which
edits the list of handlers of a single class (`World.bus_report`). Those of the router edit no other
handler, and those of other handlers leave the copies of the router as many as they are.
-/

set_option autoImplicit false

namespace Invalidation

/-- A handler that is attached to the list of a class or detached from it. -/
structure Rewiring where
  action : BindingAction
  cls : RecordClass
  handler : Handler
  deriving DecidableEq, Repr

namespace Rewiring

variable {cls : RecordClass}

def run (change : Rewiring) (bus : Bus) : Bus :=
  match change.action with
  | .attach => bus.subscribe change.cls change.handler
  | .detach => bus.unsubscribe change.cls change.handler

/-- The list of a class afterwards: a handler is attached behind all others, and its first copy is
detached, if there is one. -/
def edit (cls : RecordClass) (handlers : List Handler) (change : Rewiring) : List Handler :=
  if change.cls = cls then
    match change.action with
    | .attach => handlers ++ [change.handler]
    | .detach => handlers.erase change.handler
  else handlers

/-- The number of copies of the router afterwards. It does not fall below zero. -/
def tally (cls : RecordClass) (count : Nat) (change : Rewiring) : Nat :=
  if change.cls = cls ∧ change.handler = .router then
    match change.action with
    | .attach => count + 1
    | .detach => count - 1
  else count

/-- The router is attached to all of the topics or detached from them. -/
def ofRouter (action : BindingAction) (topics : List Topic) : List Rewiring :=
  topics.map fun topic => ⟨action, .notification topic, .router⟩

end Rewiring

namespace Bus

def rewire (changes : List Rewiring) (bus : Bus) : Bus :=
  changes.foldl (fun bus change => change.run bus) bus

theorem handlers_unsubscribe (bus : Bus) (cls other : RecordClass) (handler : Handler) :
    (bus.unsubscribe cls handler).handlers other =
      if cls = other then (bus.handlers other).erase handler else bus.handlers other := by
  obtain ⟨subscriptions⟩ := bus
  simp only [handlers, unsubscribe]
  induction subscriptions with
  | nil => simp
  | cons subscription rest ih =>
    obtain ⟨held, holder⟩ := subscription
    by_cases first : (held, holder) = (cls, handler)
    · cases first
      by_cases here : cls = other <;> simp [here]
    · rw [List.erase_cons_tail (by simpa using first)]
      by_cases listed : held = other
      · grind
      · simpa [listed] using ih

/-- The handlers of a class other than the router, in order. -/
def foreign (bus : Bus) (cls : RecordClass) : List Handler :=
  (bus.handlers cls).filter fun handler => handler ≠ .router

end Bus

namespace Rewiring

variable (cls : RecordClass) (handlers : List Handler) (change : Rewiring)

theorem handlers_run (bus : Bus) :
    (change.run bus).handlers cls = change.edit cls (bus.handlers cls) := by
  obtain ⟨action, at_, handler⟩ := change
  cases action with
  | attach =>
    rw [run, Bus.handlers_subscribe, edit]
    split <;> simp
  | detach => rw [run, Bus.handlers_unsubscribe, edit]

theorem handlers_rewire (changes : List Rewiring) (bus : Bus) :
    (bus.rewire changes).handlers cls = changes.foldl (edit cls) (bus.handlers cls) := by
  induction changes generalizing bus with
  | nil => rfl
  | cons change rest ih =>
    rw [List.foldl_cons, ← handlers_run]
    exact ih (change.run bus)

theorem rewire_ofRouter (action : BindingAction) (topics : List Topic) (bus : Bus) :
    bus.rewire (ofRouter action topics) =
      topics.foldl (fun bus topic => action.run topic bus) bus := by
  rw [Bus.rewire, ofRouter, List.foldl_map]
  cases action <;> rfl

theorem count_edit :
    (edit cls handlers change).count .router = tally cls (handlers.count .router) change := by
  obtain ⟨action, at_, handler⟩ := change
  unfold edit tally
  by_cases here : at_ = cls
  · by_cases router : handler = .router
    · cases action <;> simp [here, router]
    · cases action <;> simp [here, router, List.count_erase]
  · simp [here]

theorem filter_edit_of_router (router : change.handler = .router) :
    (edit cls handlers change).filter (fun handler => handler ≠ .router) =
      handlers.filter fun handler => handler ≠ .router := by
  obtain ⟨action, at_, handler⟩ := change
  obtain rfl : handler = .router := router
  unfold edit
  split
  · cases action with
    | attach => simp
    | detach =>
      -- Which copy of the router goes does not matter: the filter keeps none of them.
      dsimp only
      rw [← List.erase_filter, List.erase_of_not_mem (by simp)]
  · rfl

theorem filter_edit_of_foreign (foreign : change.handler ≠ .router) :
    (edit cls handlers change).filter (fun handler => handler ≠ .router) =
      edit cls (handlers.filter fun handler => handler ≠ .router) change := by
  obtain ⟨action, at_, handler⟩ := change
  unfold edit
  split
  · cases action with
    | attach => simpa using foreign
    | detach => exact (List.erase_filter ..).symm
  · rfl

theorem tally_of_foreign (count : Nat) (foreign : change.handler ≠ .router) :
    tally cls count change = count :=
  if_neg fun router => foreign router.2

end Rewiring

namespace Bus

variable (changes more : List Rewiring) (bus : Bus) (cls : RecordClass)

theorem rewire_append : bus.rewire (changes ++ more) = (bus.rewire changes).rewire more :=
  List.foldl_append

/-- Only the changes that concern the router count for it. -/
theorem count_rewire :
    ((bus.rewire changes).handlers cls).count .router =
      changes.foldl (Rewiring.tally cls) ((bus.handlers cls).count .router) := by
  rw [Rewiring.handlers_rewire]
  generalize bus.handlers cls = handlers
  induction changes generalizing handlers with
  | nil => rfl
  | cons change rest ih => rw [List.foldl_cons, ih, Rewiring.count_edit, List.foldl_cons]

theorem count_rewire_of_foreign (foreign : ∀ change ∈ changes, change.handler ≠ .router) :
    ((bus.rewire changes).handlers cls).count .router = (bus.handlers cls).count .router := by
  rw [count_rewire]
  generalize (bus.handlers cls).count .router = count
  induction changes with
  | nil => rfl
  | cons change rest ih =>
    obtain ⟨first, others⟩ := List.forall_mem_cons.1 foreign
    rw [List.foldl_cons, Rewiring.tally_of_foreign cls change count first]
    exact ih others

/-- Only the changes that concern the other handlers count for these. -/
theorem foreign_rewire :
    (bus.rewire changes).foreign cls =
      (changes.filter fun change => change.handler ≠ .router).foldl (Rewiring.edit cls)
        (bus.foreign cls) := by
  rw [foreign, foreign, Rewiring.handlers_rewire]
  generalize bus.handlers cls = handlers
  induction changes generalizing handlers with
  | nil => rfl
  | cons change rest ih =>
    by_cases router : change.handler = .router
    · rw [List.foldl_cons, ih, Rewiring.filter_edit_of_router cls handlers change router,
        List.filter_cons_of_neg (by simpa using router)]
    · rw [List.foldl_cons, ih, Rewiring.filter_edit_of_foreign cls handlers change router,
        List.filter_cons_of_pos (by simpa using router), List.foldl_cons]

theorem foreign_eq_handlers {bus : Bus} {cls : RecordClass}
    (detached : .router ∉ bus.handlers cls) : bus.foreign cls = bus.handlers cls :=
  List.filter_eq_self.2 fun handler listed => by
    simpa using fun same : handler = .router => detached (same ▸ listed)

end Bus

/-- The topics of the bindings with the index, or of all if none is given. -/
def Binder.bindingTopics : Option Raw → List Topic
  | none => Topic.bound
  | some index =>
    match Index.resolve Topic.bound.length index with
    | .ok place => [Topic.bound.get place]
    | .error _ => []

namespace Step

/-- A step that only concerns the bus and the binders. -/
def Wires : Step → Prop
  | .start _ _ | .stop _ | .bindings _ _ _ | .subscribe _ _ | .unsubscribe _ _ => True
  | _ => False

/-- A handler other than the router comes or goes. -/
def isForeign : Step → Bool
  | .subscribe _ handler | .unsubscribe _ handler => handler ≠ .router
  | _ => false

/-- What the step does to the bus, one after another. A binder attaches the router to each bound
topic if it is not bound, and detaches it from each topic that it retains. -/
def rewirings (binders : List Binder) : Step → List Rewiring
  | .start index _ =>
    match Index.resolve binders.length index with
    | .ok place =>
      if (binders.get place).bound then [] else Rewiring.ofRouter .attach Topic.bound
    | .error _ => []
  | .stop index =>
    match Index.resolve binders.length index with
    | .ok place => Rewiring.ofRouter .detach ((binders.get place).detachments.getD [])
    | .error _ => []
  | .bindings index action which =>
    match Index.resolve binders.length index with
    | .ok _ => Rewiring.ofRouter action (Binder.bindingTopics which)
    | .error _ => []
  | .subscribe cls handler => [⟨.attach, cls, handler⟩]
  | .unsubscribe cls handler => [⟨.detach, cls, handler⟩]
  | _ => []

/-- Steps of foreign handlers move these, and all others only the router. -/
theorem isForeign_iff_of_mem {step : Step} {binders : List Binder} {change : Rewiring}
    (done : change ∈ step.rewirings binders) :
    step.isForeign = true ↔ change.handler ≠ .router := by
  have routed : ∀ action topics, change ∈ Rewiring.ofRouter action topics →
      (false = true ↔ change.handler ≠ .router) := by
    intro action topics member
    obtain ⟨topic, -, rfl⟩ := List.mem_map.1 member
    simp
  cases step with
  | start index teardown =>
    simp only [rewirings] at done
    split at done
    · split at done
      · cases done
      · exact routed _ _ done
    · cases done
  | stop index | bindings index action which =>
    simp only [rewirings] at done
    split at done
    · exact routed _ _ done
    · cases done
  | subscribe cls handler | unsubscribe cls handler =>
    obtain rfl := List.mem_singleton.1 done
    exact decide_eq_true_iff
  | _ => cases done

/-- Foreign handlers come and go without regard to the binders. -/
theorem rewirings_of_isForeign {step : Step} (foreign : step.isForeign = true)
    (binders others : List Binder) : step.rewirings binders = step.rewirings others := by
  cases step with
  | subscribe cls handler | unsubscribe cls handler => rfl
  | _ => cases foreign

theorem wires_of_isForeign {step : Step} (foreign : step.isForeign = true) : step.Wires := by
  cases step with
  | subscribe cls handler | unsubscribe cls handler => trivial
  | _ => cases foreign

end Step

namespace World

/-- A start is refused and does nothing, or it binds a binder and attaches the router for it. -/
theorem start_cases (index : Raw) (teardown : Option Raw) (world : World) :
    (∃ failure, start index (teardown.any Raw.truthy) world = .error failure world ∧
      (Step.start index teardown).rewirings world.binders = []) ∨
    ∃ place, Index.resolve world.binders.length index = .ok place ∧
      start index (teardown.any Raw.truthy) world = .ok () { world with
        bus := world.bus.rewire (Rewiring.ofRouter .attach Topic.bound)
        binders := world.binders.set place
          ⟨true, if teardown.any Raw.truthy then some Topic.bound else none⟩
        outlet.notices := world.outlet.notices ++ [.log (.binding Topic.bound.length)] } ∧
      (Step.start index teardown).rewirings world.binders =
        Rewiring.ofRouter .attach Topic.bound := by
  rw [start_eq_onBinder, Step.rewirings]
  cases found : Index.resolve world.binders.length index with
  | error failure => exact .inl ⟨failure, onBinder_of_missing found, rfl⟩
  | ok place =>
    cases bound : (world.binders.get place).bound with
    | true =>
      exact .inl ⟨.alreadyBound, onBinder_of_error found (Binder.start_of_bound bound),
        if_pos bound⟩
    | false =>
      have started : (world.binders.get place).start (teardown.any Raw.truthy) world.bus = .ok _ :=
        Binder.start_eq_ok_iff.2 ⟨bound, rfl, rfl⟩
      refine .inr ⟨place, rfl, ?_, if_neg (ne_true_of_eq_false bound)⟩
      rw [onBinder_of_ok found started, Rewiring.rewire_ofRouter]
      rfl

theorem bus_after_start (index : Raw) (teardown : Option Raw) (world : World) :
    ((start index (teardown.any Raw.truthy)).after world).bus =
      world.bus.rewire ((Step.start index teardown).rewirings world.binders) := by
  rw [Attempt.after]
  rcases start_cases index teardown world with ⟨_, refused, none⟩ | ⟨_, -, started, attached⟩
  · rw [refused, none]
    rfl
  · rw [started, attached]

theorem bus_after_stop (index : Raw) (world : World) :
    ((stop index).after world).bus =
      world.bus.rewire ((Step.stop index).rewirings world.binders) := by
  rw [stop_eq_onBinder, Attempt.after, Step.rewirings]
  cases found : Index.resolve world.binders.length index with
  | error failure =>
    rw [onBinder_of_missing found]
    rfl
  | ok place =>
    dsimp only
    cases retained : (world.binders.get place).detachments with
    | none =>
      rw [onBinder_of_error found (Binder.stop_of_released retained)]
      rfl
    | some topics =>
      have stopped : (world.binders.get place).stop world.bus = .ok _ :=
        Binder.stop_eq_ok_iff.2 ⟨topics, retained, rfl, rfl⟩
      rw [onBinder_of_ok found stopped, Option.getD_some, Rewiring.rewire_ofRouter]
      rfl

theorem after_runBindings (action : BindingAction) (which : Option Raw) (world : World) :
    (runBindings action which).after world =
      { world with
        bus := world.bus.rewire (Rewiring.ofRouter action (Binder.bindingTopics which)) } := by
  rw [runBindings, Attempt.after_bind, Rewiring.rewire_ofRouter]
  cases which with
  | none => rfl
  | some index =>
    have looked : boundTopics (some index) =
        Attempt.ofExcept (Index.resolve Topic.bound.length index) >>= fun place =>
          pure [Topic.bound[place]] := rfl
    rw [looked, Attempt.bind_apply, Binder.bindingTopics]
    cases Index.resolve Topic.bound.length index with
    | error failure => rfl
    | ok place => rfl

theorem bus_after_bindings (react : Handler → Record → Attempt World Unit) (index : Raw)
    (action : BindingAction) (which : Option Raw) (world : World) :
    ((perform react (.bindings index action which)).after world).bus =
      world.bus.rewire ((Step.bindings index action which).rewirings world.binders) := by
  have opened : perform react (.bindings index action which) =
      (binder index >>= fun _ => runBindings action which >>= fun _ =>
          pure (Reply.count Topic.bound.length)) := rfl
  rw [opened, Attempt.after_bind, binder_apply, Step.rewirings]
  cases Index.resolve world.binders.length index with
  | error failure => rfl
  | ok place =>
    dsimp only
    rw [Attempt.after_answer, after_runBindings]

theorem bus_report {step : Step} (wires : step.Wires) (world : World) :
    (world.report step).after.bus = world.bus.rewire (step.rewirings world.binders) := by
  rw [after_report]
  cases step with
  | start index teardown =>
    have opened := Attempt.after_answer (start index (teardown.any Raw.truthy)) Reply.done
    exact (congrArg World.bus (opened world.quiet)).trans
      (bus_after_start index teardown world.quiet)
  | stop index =>
    have opened := Attempt.after_answer (stop index) Reply.done
    exact (congrArg World.bus (opened world.quiet)).trans (bus_after_stop index world.quiet)
  | bindings index action which => exact bus_after_bindings _ index action which world.quiet
  | subscribe cls handler => rfl
  | unsubscribe cls handler => rfl
  | _ => exact wires.elim

end World

end Invalidation
