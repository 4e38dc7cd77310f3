import Invalidation.Proofs.World.Rewiring

/-!
# Foreign handlers

Binders attach the router to lists that other handlers share, and take back the first copy of it
that they find there. Whatever comes of the router, the other handlers of a class stay as they are,
in content and order, and the copies of the router follow the steps that concern it. So a binder
that is started and stopped where the router was not attached leaves no trace
(`World.binders_leave_foreign_handlers`).
-/

set_option autoImplicit false

namespace Invalidation

namespace World

def rewirings : List Step → World → List Rewiring
  | [], _ => []
  | step :: rest, world =>
    step.rewirings world.binders ++ rewirings rest (world.report step).after

theorem bus_afterAll {steps : List Step} (wires : ∀ step ∈ steps, step.Wires) (world : World) :
    (world.afterAll steps).bus = world.bus.rewire (world.rewirings steps) := by
  induction steps generalizing world with
  | nil => rfl
  | cons step rest ih =>
    obtain ⟨first, others⟩ := List.forall_mem_cons.1 wires
    rw [rewirings, Bus.rewire_append, ← bus_report first]
    exact ih others (world.report step).after

/-- Steps that only move the router leave the others alone, and steps of others go on as if nothing
had happened. -/
theorem foreign_afterAll {steps : List Step} (wires : ∀ step ∈ steps, step.Wires)
    {world other : World} (alike : ∀ cls, world.bus.foreign cls = other.bus.foreign cls) :
    ∀ cls, (world.afterAll steps).bus.foreign cls =
      (other.afterAll (steps.filter Step.isForeign)).bus.foreign cls := by
  -- Two worlds run side by side, and only their foreign handlers are alike: their binders and
  -- their routers need not be, so both worlds have to be free in the induction.
  induction steps generalizing world other with
  | nil => exact alike
  | cons step rest ih =>
    obtain ⟨first, others⟩ := List.forall_mem_cons.1 wires
    cases foreign : step.isForeign with
    | true =>
      rw [List.filter_cons_of_pos foreign]
      refine ih others fun cls => ?_
      rw [bus_report first, bus_report first, Bus.foreign_rewire, Bus.foreign_rewire, alike,
        Step.rewirings_of_isForeign foreign world.binders other.binders]
    | false =>
      rw [List.filter_cons_of_neg (by simp [foreign])]
      refine ih others fun cls => ?_
      have routed : ((step.rewirings world.binders).filter fun change =>
          change.handler ≠ .router) = [] :=
        List.filter_eq_nil_iff.2 fun change done moves => by
          rw [(Step.isForeign_iff_of_mem done).2 (of_decide_eq_true moves)] at foreign
          cases foreign
      rw [bus_report first, Bus.foreign_rewire, routed]
      exact alike cls

theorem binders_report_of_isForeign {step : Step} (foreign : step.isForeign = true)
    (world : World) : (world.report step).after.binders = world.binders := by
  cases step with
  | subscribe cls handler | unsubscribe cls handler => rfl
  | _ => cases foreign

theorem afterAll_of_isForeign {steps : List Step}
    (foreign : ∀ step ∈ steps, step.isForeign = true) (world : World) :
    (world.afterAll steps).binders = world.binders ∧
      ∀ cls, ((world.afterAll steps).bus.handlers cls).count .router =
        (world.bus.handlers cls).count .router := by
  induction steps generalizing world with
  | nil => exact ⟨rfl, fun _ => rfl⟩
  | cons step rest ih =>
    obtain ⟨first, others⟩ := List.forall_mem_cons.1 foreign
    obtain ⟨binders, counts⟩ := ih others (world.report step).after
    refine ⟨binders.trans (binders_report_of_isForeign first world), fun cls => ?_⟩
    rw [← Bus.count_rewire_of_foreign (step.rewirings world.binders) world.bus cls fun _ done =>
      (Step.isForeign_iff_of_mem done).1 first, ← bus_report (Step.wires_of_isForeign first)]
    exact counts cls

/-! ### One binder on its own -/

variable {index again : Raw} {teardown : Option Raw} {between : List Step} {world : World}

/-- A start that succeeds adds the router once to each bound topic. -/
theorem report_start (started : (world.report (.start index teardown)).outcome = .ok .done) :
    ∃ place, Index.resolve world.binders.length index = .ok place ∧
      (world.report (.start index teardown)).after.binders = world.binders.set place
        ⟨true, if teardown.any Raw.truthy then some Topic.bound else none⟩ ∧
      ∀ cls, ((world.report (.start index teardown)).after.bus.handlers cls).count .router =
        (world.bus.handlers cls).count .router + RecordClass.bound.count cls := by
  have performed := perform_of_outcome started
  rw [perform_start, Attempt.answering_eq_ok_iff] at performed
  rcases start_cases index teardown world.quiet with ⟨_, refused, -⟩ | ⟨place, found, done, -⟩
  · rw [refused] at performed
    cases performed.2
  · obtain ⟨-, after⟩ := EStateM.Result.ok.inj (done.symm.trans performed.2)
    rw [← after]
    refine ⟨place, found, rfl, fun cls => ?_⟩
    rw [Rewiring.rewire_ofRouter]
    exact Bus.count_attachAll Topic.bound world.bus cls

/-- A stop takes the router once from each topic that the binder retains. -/
theorem report_stop {place : Fin world.binders.length} {topics : List Topic}
    (found : Index.resolve world.binders.length index = .ok place)
    (retained : (world.binders.get place).detachments = some topics) :
    (world.report (.stop index)).outcome = .ok .done ∧
      ∀ cls, ((world.report (.stop index)).after.bus.handlers cls).count .router =
        (world.bus.handlers cls).count .router - (topics.map .notification).count cls := by
  constructor
  · have here : Index.resolve world.quiet.binders.length index = .ok place := found
    have stopped : (world.quiet.binders.get place).stop world.quiet.bus = .ok _ :=
      Binder.stop_eq_ok_iff.2 ⟨topics, retained, rfl, rfl⟩
    have performed := perform_stop (react reactionDepth) index world.quiet
    rw [stop_eq_onBinder, onBinder_of_ok here stopped] at performed
    rw [report, performed]
    rfl
  · intro cls
    have detaches : (Step.stop index).rewirings world.binders =
        Rewiring.ofRouter .detach topics := by
      rw [Step.rewirings, found]
      dsimp only
      rw [retained, Option.getD_some]
    have wires : (Step.stop index).Wires := trivial
    rw [bus_report wires, detaches, Rewiring.rewire_ofRouter]
    exact Bus.count_detachAll topics world.bus cls

/-- An index stands for the same place as long as there are as many binders. -/
theorem resolve_of_length_eq {size other : Nat} (same : size = other) {place : Fin size}
    (found : Index.resolve size index = .ok place) :
    Index.resolve other index = .ok (place.cast same) := by
  subst same
  exact found

/-- A binder that was started is stopped, whatever foreign handlers came and went, and takes back
what it attached. -/
theorem report_stop_of_start (retaining : teardown.any Raw.truthy = true)
    (started : (world.report (.start index teardown)).outcome = .ok .done)
    (same : Index.resolve world.binders.length again = Index.resolve world.binders.length index)
    (foreign : ∀ step ∈ between, step.isForeign = true) :
    let now := world.afterAll (.start index teardown :: between)
    (now.report (.stop again)).outcome = .ok .done ∧
      ∀ cls, ((now.report (.stop again)).after.bus.handlers cls).count .router =
        (world.bus.handlers cls).count .router := by
  intro now
  obtain ⟨place, found, bound, attached⟩ := report_start started
  obtain ⟨kept, counts⟩ :=
    afterAll_of_isForeign foreign (world.report (.start index teardown)).after
  have binders : now.binders = world.binders.set place ⟨true, some Topic.bound⟩ := by
    rw [retaining] at bound
    exact kept.trans bound
  have length : world.binders.length = now.binders.length := by rw [binders, List.length_set]
  have retained : now.binders.get (place.cast length) = ⟨true, some Topic.bound⟩ := by
    have held : now.binders[place.val]? = some ⟨true, some Topic.bound⟩ := by
      rw [binders, List.getElem?_set_self place.isLt]
    obtain ⟨inside, held⟩ := List.getElem?_eq_some_iff.1 held
    exact held
  obtain ⟨stopped, detached⟩ := report_stop (resolve_of_length_eq length (same.trans found))
    (congrArg Binder.detachments retained)
  refine ⟨stopped, fun cls => ?_⟩
  calc ((now.report (.stop again)).after.bus.handlers cls).count .router
      = (now.bus.handlers cls).count .router - RecordClass.bound.count cls := detached cls
    _ = (world.bus.handlers cls).count .router + RecordClass.bound.count cls
          - RecordClass.bound.count cls :=
        congrArg (· - RecordClass.bound.count cls) ((counts cls).trans (attached cls))
    _ = (world.bus.handlers cls).count .router := Nat.add_sub_cancel ..

/-- Whatever comes of the router, the other handlers of each class are those that they would be
without it, in content and order, and its copies are as many as the steps that concern it leave. So
a binder that was started and is stopped where the router was not attached leaves all handlers as
if it had never been started, while others come and go. -/
theorem binders_leave_foreign_handlers (world : World) :
    (∀ steps, (∀ step ∈ steps, step.Wires) →
      (world.afterAll steps).bus = world.bus.rewire (world.rewirings steps) ∧
      ∀ cls,
        (world.afterAll steps).bus.foreign cls =
          (world.afterAll (steps.filter Step.isForeign)).bus.foreign cls ∧
        ((world.afterAll steps).bus.handlers cls).count .router =
          (world.rewirings steps).foldl (Rewiring.tally cls)
            ((world.bus.handlers cls).count .router)) ∧
    ∀ index again teardown between,
      (∀ cls, .router ∉ world.bus.handlers cls) → teardown.any Raw.truthy = true →
      (world.report (.start index teardown)).outcome = .ok .done →
      Index.resolve world.binders.length again = Index.resolve world.binders.length index →
      (∀ step ∈ between, step.isForeign = true) →
        let now := world.afterAll (.start index teardown :: between)
        (now.report (.stop again)).outcome = .ok .done ∧
        ∀ cls, (now.report (.stop again)).after.bus.handlers cls =
          (world.afterAll between).bus.handlers cls := by
  have alike : ∀ cls, world.bus.foreign cls = world.bus.foreign cls := fun _ => rfl
  refine ⟨fun steps wires => ⟨bus_afterAll wires world, fun cls => ?_⟩, ?_⟩
  · refine ⟨foreign_afterAll wires alike cls, ?_⟩
    rw [bus_afterAll wires, Bus.count_rewire]
  intro index again teardown between detached retaining started same foreign now
  obtain ⟨stopped, counts⟩ := report_stop_of_start retaining started same foreign
  refine ⟨stopped, fun cls => ?_⟩
  have after : .router ∉ (now.report (.stop again)).after.bus.handlers cls := by
    rw [← List.count_eq_zero]
    exact (counts cls).trans (List.count_eq_zero.2 (detached cls))
  have never : .router ∉ (world.afterAll between).bus.handlers cls := by
    rw [← List.count_eq_zero, (afterAll_of_isForeign foreign world).2]
    exact List.count_eq_zero.2 (detached cls)
  rw [← Bus.foreign_eq_handlers after, ← Bus.foreign_eq_handlers never]
  have only : (Step.start index teardown :: between ++ [Step.stop again]).filter Step.isForeign =
      between := by
    simp [List.filter_eq_self.2 foreign, Step.isForeign]
  have wires : ∀ step ∈ Step.start index teardown :: between ++ [Step.stop again], step.Wires := by
    simp only [List.cons_append, List.forall_mem_cons, List.forall_mem_append]
    exact ⟨trivial, fun step member => Step.wires_of_isForeign (foreign step member), trivial,
      nofun⟩
  have erased := foreign_afterAll wires alike cls
  rw [only, afterAll_append_singleton] at erased
  exact erased

/-- A binder is started and stopped while two probes come and one of them goes, and the router is
taken from a class more often than it was attached. -/
theorem binders_leave_probes :
    let saved : RecordClass := .notification (.saved .language)
    let world := (new (.recorder ⟨none, false, Recorder.acceptAll, []⟩) 2 fun _ => []).afterAll
      [.subscribe saved (.probe "first")]
    let between : List Step :=
      [.subscribe saved (.probe "second"), .unsubscribe saved (.probe "first")]
    let now := world.afterAll (.start (.int 0) (some (.bool true)) :: between)
    let steps : List Step := [.start (.int 0) none, .unsubscribe saved .router,
      .unsubscribe saved .router, .subscribe saved (.probe "second"), .start (.int 1) none]
    now.bus.handlers saved = [.router, .probe "second"] ∧
      (now.report (.stop (.int (-2)))).outcome = .ok .done ∧
      (now.report (.stop (.int (-2)))).after.bus.handlers saved = [.probe "second"] ∧
      (world.afterAll steps).bus.foreign saved = [.probe "first", .probe "second"] ∧
      ((world.afterAll steps).bus.handlers saved).count .router = 1 := by
  intro saved world between now steps
  obtain ⟨runs, restores⟩ := binders_leave_foreign_handlers world
  have detached : ∀ cls, .router ∉ world.bus.handlers cls := by
    intro cls
    change .router ∉ (Bus.empty.subscribe saved (.probe "first")).handlers cls
    rw [← List.count_eq_zero, Bus.count_subscribe]
    simp [Bus.handlers, Bus.empty]
  have foreign : ∀ step ∈ between, step.isForeign = true := by
    simp [between, Step.isForeign]
  have wires : ∀ step ∈ steps, step.Wires := by simp [steps, Step.Wires]
  obtain ⟨stopped, restored⟩ :=
    restores (.int 0) (.int (-2)) (some (.bool true)) between detached rfl rfl rfl foreign
  obtain ⟨-, followed⟩ := runs steps wires
  exact ⟨by decide, stopped, (restored saved).trans (by decide),
    (followed saved).1.trans (by decide), (followed saved).2.trans (by decide)⟩

end World

end Invalidation
