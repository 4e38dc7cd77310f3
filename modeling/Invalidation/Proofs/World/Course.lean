import Invalidation.Proofs.World.Attachment
import Invalidation.Proofs.World.Effect

/-!
# Courses of a world

Probes run steps while a record is published, so what a step does to the bus and the binders can
itself be a whole history. `Course` is that history: binders that are started or stopped, probes
that come and go, and an outlet that changes in any way. As long as only binders handle the router,
every step and every handler leads along a course, however deep they call each other
(`steady_perform`, `steady_react`).
-/

set_option autoImplicit false

namespace Invalidation

/-- A step that changes no subscription of the router unless through a binder. -/
def Step.LeavesRouter : Step → Prop
  | .bindings _ _ _ => False
  | .subscribe _ handler | .unsubscribe _ handler => handler ≠ .router
  | _ => True

/-- A binder that was started or stopped. -/
inductive Turn where
  | started (place : Nat) (teardown : Bool)
  | stopped (place : Nat)
  deriving DecidableEq, Repr

namespace Turn

def place : Turn → Nat
  | started place _ | stopped place => place

def left : Turn → Binder
  | started _ teardown => ⟨true, if teardown then some Topic.bound else none⟩
  | stopped _ => .new

end Turn

namespace World

open Attempt (Along Passage)

/-- Probes leave the router to the binders. -/
def Orderly (world : World) : Prop := ∀ name, ∀ step ∈ world.program name, step.LeavesRouter

/-- A world can become another one while binders take these turns and nothing else changes the
subscriptions of the router. -/
inductive Course (origin : World) : List Turn → World → Prop where
  | rest : Course origin [] origin
  | start {turns : List Turn} {now : World} {place : Nat} {binder after : Binder} {bus : Bus}
      (teardown : Bool) (before : Course origin turns now)
      (here : now.binders[place]? = some binder)
      (started : binder.start teardown now.bus = .ok (after, bus)) :
      Course origin (turns ++ [.started place teardown])
        { now with binders := now.binders.set place after, bus := bus }
  | stop {turns : List Turn} {now : World} {place : Nat} {binder after : Binder} {bus : Bus}
      (before : Course origin turns now) (here : now.binders[place]? = some binder)
      (stopped : binder.stop now.bus = .ok (after, bus)) :
      Course origin (turns ++ [.stopped place])
        { now with binders := now.binders.set place after, bus := bus }
  | subscribe {turns : List Turn} {now : World} (topic : RecordClass) (probe : String)
      (before : Course origin turns now) :
      Course origin turns { now with bus := now.bus.subscribe topic (.probe probe) }
  | unsubscribe {turns : List Turn} {now : World} (topic : RecordClass) (probe : String)
      (before : Course origin turns now) :
      Course origin turns { now with bus := now.bus.unsubscribe topic (.probe probe) }
  | outlet {turns : List Turn} {now : World} (outlet : Outlet) (before : Course origin turns now) :
      Course origin turns { now with outlet := outlet }

namespace Course

variable {origin between now : World} {turns more : List Turn}

theorem trans (first : Course origin turns between) (second : Course between more now) :
    Course origin (turns ++ more) now := by
  induction second with
  | rest => rwa [List.append_nil]
  | start teardown _ here started ih =>
    rw [← List.append_assoc]
    exact ih.start teardown here started
  | stop _ here stopped ih =>
    rw [← List.append_assoc]
    exact ih.stop here stopped
  | subscribe topic probe _ ih => exact ih.subscribe topic probe
  | unsubscribe topic probe _ ih => exact ih.unsubscribe topic probe
  | outlet outlet _ ih => exact ih.outlet outlet

theorem program_eq (course : Course origin turns now) : now.program = origin.program := by
  induction course with
  | rest => rfl
  | start _ _ _ _ ih | stop _ _ _ ih | subscribe _ _ _ ih | unsubscribe _ _ _ ih
  | outlet _ _ ih => exact ih

theorem orderly (course : Course origin turns now) (before : origin.Orderly) : now.Orderly := by
  rw [Orderly, course.program_eq]
  exact before

end Course

/-- The action leads every orderly world along a course. -/
def Steady {α : Type} (action : Attempt World α) : Prop :=
  ∀ world, world.Orderly → ∃ turns, Course world turns (action.after world)

/-- An orderly world can become the other one along a course. -/
def Reaches (world now : World) : Prop := world.Orderly → ∃ turns, Course world turns now

instance : Passage Reaches where
  stay _ := fun _ => ⟨[], .rest⟩
  onward := by
    intro world between now first second orderly
    obtain ⟨turns, course⟩ := first orderly
    obtain ⟨more, onward⟩ := second (course.orderly orderly)
    exact ⟨turns ++ more, course.trans onward⟩

theorem steady_iff_along {α : Type} {action : Attempt World α} :
    Steady action ↔ Along Reaches action := Iff.rfl

theorem OutletOnly.reaches {world now : World} (outlet : OutletOnly world now) :
    Reaches world now := by
  obtain ⟨after, rfl, -⟩ := outlet
  exact fun _ => ⟨[], .outlet after .rest⟩

/-! ### The binders -/

theorem binder_apply (index : Raw) (world : World) :
    binder index world =
      match Index.resolve world.binders.length index with
      | .error failure => .error failure world
      | .ok place => .ok (place.val, world.binders.get place) world := by
  have opened : binder index world =
      (Attempt.ofExcept (Index.resolve world.binders.length index) >>= fun place =>
        pure (place.val, world.binders.get place)) world := rfl
  rw [opened, Attempt.bind_apply]
  cases Index.resolve world.binders.length index with
  | error failure => rfl
  | ok place => rfl

/-- What starting and stopping have in common: a binder acts on the bus and, unless that fails, is
finished with. -/
def onBinder (act : Binder → Bus → Except Failure (Binder × Bus))
    (finish : Nat → Binder → Binder × Bus → Attempt World Unit) (index : Raw) :
    Attempt World Unit := do
  let found ← binder index
  let next ← Attempt.ofExcept (act found.2 (← get).bus)
  finish found.1 found.2 next

theorem start_eq_onBinder (index : Raw) (teardown : Bool) :
    start index teardown = onBinder (Binder.start teardown)
      (fun place _ next => do
        note (.log (.binding Topic.bound.length))
        keep place next.1 next.2) index := rfl

theorem stop_eq_onBinder (index : Raw) :
    stop index = onBinder Binder.stop
      (fun place before next => do
        keep place next.1 next.2
        note (.log (.unbound (before.detachments.getD []).length))) index := rfl

variable {act : Binder → Bus → Except Failure (Binder × Bus)}
  {finish : Nat → Binder → Binder × Bus → Attempt World Unit} {index : Raw} {world : World}

theorem onBinder_of_missing {failure : Failure}
    (missing : Index.resolve world.binders.length index = .error failure) :
    onBinder act finish index world = .error failure world := by
  rw [onBinder, Attempt.bind_apply, binder_apply, missing]

/-- An action that fails changes nothing. -/
theorem onBinder_of_error {place : Fin world.binders.length} {failure : Failure}
    (found : Index.resolve world.binders.length index = .ok place)
    (failed : act (world.binders.get place) world.bus = .error failure) :
    onBinder act finish index world = .error failure world := by
  rw [onBinder, Attempt.bind_apply, binder_apply, found]
  change (Attempt.ofExcept (act (world.binders.get place) world.bus) >>= _) world = _
  rw [failed]
  rfl

theorem onBinder_of_ok {place : Fin world.binders.length} {next : Binder × Bus}
    (found : Index.resolve world.binders.length index = .ok place)
    (acted : act (world.binders.get place) world.bus = .ok next) :
    onBinder act finish index world = finish place (world.binders.get place) next world := by
  rw [onBinder, Attempt.bind_apply, binder_apply, found]
  change (Attempt.ofExcept (act (world.binders.get place) world.bus) >>= _) world = _
  rw [acted]
  rfl

/-- An action fails and changes nothing, or its binder is finished with. -/
theorem onBinder_cases (act : Binder → Bus → Except Failure (Binder × Bus))
    (finish : Nat → Binder → Binder × Bus → Attempt World Unit) (index : Raw) (world : World) :
    (∃ failure, onBinder act finish index world = .error failure world) ∨
      ∃ place binder next, world.binders[place]? = some binder ∧
        act binder world.bus = .ok next ∧
        onBinder act finish index world = finish place binder next world := by
  cases found : Index.resolve world.binders.length index with
  | error failure => exact .inl ⟨failure, onBinder_of_missing found⟩
  | ok place =>
    cases acted : act (world.binders.get place) world.bus with
    | error failure => exact .inl ⟨failure, onBinder_of_error found acted⟩
    | ok next =>
      exact .inr ⟨place, world.binders.get place, next, List.getElem?_eq_getElem place.isLt, acted,
        onBinder_of_ok found acted⟩

theorem steady_start (index : Raw) (teardown : Bool) : Steady (start index teardown) := by
  intro world _
  rw [start_eq_onBinder, Attempt.after]
  rcases onBinder_cases (Binder.start teardown) _ index world with
    ⟨_, failed⟩ | ⟨place, binder, next, here, started, done⟩
  · rw [failed]
    exact ⟨[], .rest⟩
  · rw [done]
    exact ⟨_, (Course.rest.start teardown here started).outlet _⟩

theorem steady_stop (index : Raw) : Steady (stop index) := by
  intro world _
  rw [stop_eq_onBinder, Attempt.after]
  rcases onBinder_cases Binder.stop _ index world with
    ⟨_, failed⟩ | ⟨place, binder, next, here, stopped, done⟩
  · rw [failed]
    exact ⟨[], .rest⟩
  · rw [done]
    exact ⟨_, (Course.rest.stop here stopped).outlet _⟩

/-! ### Steps and handlers -/

variable {react : Handler → Record → Attempt World Unit}

theorem steady_publish (calls : ∀ handler event, Steady (react handler event)) (event : Record) :
    Steady (publish react event) := by
  rw [steady_iff_along]
  exact .bind .get fun _ => .forM _ fun handler _ => calls handler event

/-- A step leads along a course if all handlers do. -/
theorem steady_perform (calls : ∀ handler event, Steady (react handler event)) {step : Step}
    (leaves : step.LeavesRouter) : Steady (perform react step) := by
  rw [steady_iff_along]
  cases step with
  | start index teardown =>
    exact .bind (steady_iff_along.1 (steady_start index _)) fun _ => .pure _
  | stop index => exact .bind (steady_iff_along.1 (steady_stop index)) fun _ => .pure _
  | bindings index action which => exact leaves.elim
  | publish event =>
    exact .bind (.ofChecked _) fun record =>
      .bind (steady_iff_along.1 (steady_publish calls record)) fun _ => .pure _
  | subscribe topic handler =>
    cases handler with
    | router => exact absurd rfl leaves
    | probe name => exact fun _ _ => ⟨[], .subscribe topic name .rest⟩
  | unsubscribe topic handler =>
    cases handler with
    | router => exact absurd rfl leaves
    | probe name => exact fun _ _ => ⟨[], .unsubscribe topic name .rest⟩
  | _ =>
    -- All other steps only concern the outlet.
    refine Along.mono (along_outletOnly_perform react ?_ ?_) fun _ _ => OutletOnly.reaches
    · trivial
    · nofun

/-- A handler leads along a course, however deep it may publish. -/
theorem steady_react (depth : Nat) (handler : Handler) (event : Record) :
    Steady (World.react depth handler event) := by
  induction depth generalizing handler event with
  | zero =>
    have given_up : Along Reaches (World.react 0 handler event) := .throw _
    exact given_up
  | succ depth ih =>
    cases handler with
    | router =>
      have handled : Along OutletOnly (World.react (depth + 1) .router event) :=
        along_react_router (depth + 1) event
      exact handled.mono fun _ _ => OutletOnly.reaches
    | probe name =>
      -- The program is that of the world in which the probe is called, so it is looked up here.
      intro world orderly
      have told : Course world [] { world with
          outlet.notices := world.outlet.notices ++ [.probeCall name event.cls] } :=
        Course.rest.outlet _
      have runs : Along Reaches ((world.program name).forM fun step => do
          let _ ← perform (World.react depth) step) :=
        .forM _ fun step member =>
          .bind (steady_iff_along.1 (steady_perform ih (orderly name step member))) fun _ =>
            .pure _
      obtain ⟨turns, course⟩ := runs _ (told.orderly orderly)
      exact ⟨turns, told.trans course⟩

end World

end Invalidation
