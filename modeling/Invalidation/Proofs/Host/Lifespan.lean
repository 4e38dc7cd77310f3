import Invalidation.Proofs.Host.Building
import Invalidation.Proofs.Host.Phase

/-!
# The lifespan of a host

Whatever is done with a host from the moment when it is built, each step leads it to the next phase
(`Host.Stands.report`), and so all steps lead it through one phase after another
(`Host.Stands.afterAll`). Entries therefore succeed and fail as the phase says, requests always find
what they show, and the bus has the handlers of the binder and no others
(`Host.lifespan_keeps_host_in_order`).
-/

set_option autoImplicit false

namespace Invalidation

open Attempt (Along)

/-- A step of a host that has no other way to the bus than the host's own: it may be entered and
left, asked for pages, and whatever leaves the bus as it is may be done. -/
def HostStep.LeavesBus : HostStep → Prop
  | .step asked => asked.LeavesBus
  | _ => True

namespace World

theorem after_perform_publish {react : Handler → Record → Attempt World Unit} {draft : Draft}
    {record : Record} (reads : draft.read = .valid record) (now : World) :
    (perform react (.publish draft)).after now =
      ((now.bus.handlers record.cls).forM fun handler => react handler record).after now := by
  unfold Attempt.after
  rw [perform_publish reads]
  cases (now.bus.handlers record.cls).forM (fun handler => react handler record) now <;> rfl

/-- If there are no other handlers than the router, a step that leaves the bus concerns only the
outlet, also if it publishes. -/
theorem outletOnly_of_onlyRouter {now : World} (only : now.bus.OnlyRouter) (depth : Nat)
    {step : Step} (leaves : step.LeavesBus) :
    OutletOnly now ((perform (react depth) step).after now) := by
  by_cases publishes : ∃ draft, step = .publish draft
  · obtain ⟨draft, rfl⟩ := publishes
    cases reads : draft.read with
    | faulty first more =>
      have opened : perform (react depth) (.publish draft) now =
          (Attempt.ofChecked draft.read >>= fun record =>
            publish (react depth) record >>= fun _ => pure Reply.done) now := rfl
      unfold Attempt.after
      rw [opened, reads]
      exact ⟨now.outlet, rfl, rfl⟩
    | valid record =>
      -- Which handlers are called is settled when the publishing begins, and each is the router.
      have calls : Along OutletOnly
          ((now.bus.handlers record.cls).forM fun handler => react depth handler record) := by
        refine .forM _ fun handler member => ?_
        rw [only.handlers_eq] at member
        rw [List.eq_of_mem_replicate member]
        exact along_react_router depth record
      rw [after_perform_publish reads]
      exact calls now
  · exact along_outletOnly_perform (react depth) leaves
      (fun draft same => publishes ⟨draft, same⟩) now

end World

namespace Host

def afterAll (steps : List HostStep) (host : Host) : Host :=
  steps.foldl (fun now step => (now.report step).after) host

/-- One more step is run in the host after all others. -/
theorem run_append_singleton (steps : List HostStep) (step : HostStep) (host : Host) :
    host.run (steps ++ [step]) = host.run steps ++ [(host.afterAll steps).report step] := by
  induction steps generalizing host with
  | nil => rfl
  | cons first rest ih => exact congrArg (host.report first :: ·) (ih (host.report first).after)

variable {settings : Settings} {phase : Phase} {host : Host} {root after : RootLog}

/-! ### Requests and other steps -/

theorem along_request (method : Option Raw) (target : Raw) :
    Along Eq (perform (.request method target)) :=
  .bind (.ofExcept _) fun _ => .bind (.ofExcept _) fun _ => .bind (.ofExcept _) fun _ =>
    .bind .get fun _ => .bind (.ofExcept _) fun _ => .pure _

theorem after_report_request (method : Option Raw) (target : Raw) (host : Host) :
    (host.report (.request method target)).after = host.quiet := by
  rw [after_report]
  exact (along_request method target host.quiet).symm

/-- Any other step concerns only the world. -/
theorem report_step (step : Step) (host : Host) :
    (host.report (.step step)).outcome = (host.world.report step).outcome.map .reply ∧
      (host.report (.step step)).after = { host with world := (host.world.report step).after } := by
  have opened : perform (.step step) host.quiet =
      (onWorld (World.perform (World.react reactionDepth) step) >>= fun reply =>
        pure (HostReply.reply reply)) host.quiet := rfl
  unfold report World.report
  rw [opened, Attempt.bind_apply, onWorld_apply]
  have here : host.quiet.world = host.world.quiet := rfl
  rw [here]
  cases World.perform (World.react reactionDepth) step host.world.quiet with
  | ok reply world => exact ⟨rfl, rfl⟩
  | error failure world => exact ⟨rfl, rfl⟩

/-! ### The life of a host -/

namespace Stands

theorem onlyRouter (stands : Stands settings phase host) : host.world.bus.OnlyRouter := by
  rw [stands.bus]
  cases phase with
  | idle => exact nofun
  | running | lasting => exact Bus.onlyRouter_serving

/-- Whatever else is done leaves the phase, also if it publishes. -/
theorem report_other (stands : Stands settings phase host) {step : Step}
    (leaves : step.LeavesBus) : Stands settings phase (host.report (.step step)).after := by
  obtain ⟨outlet, only, kind⟩ :=
    World.outletOnly_of_onlyRouter stands.quiet.onlyRouter reactionDepth leaves
  have after : (host.world.report step).after = _ := (World.after_report step host.world).trans only
  rw [(report_step step host).2, after]
  exact ⟨stands.settings_eq, stands.entered, stands.binders, stands.bus,
    kind.trans stands.clustered, stands.lasting⟩

/-- One step leads the host to the next phase. -/
theorem report (stands : Stands settings phase host) {step : HostStep} (leaves : step.LeavesBus) :
    Stands settings (phase.next settings.supportTeardown step) (host.report step).after := by
  cases step with
  | enter =>
    cases phase with
    | idle => exact stands.enter_of_idle.2
    | running | lasting =>
      rw [stands.enter_of_bound rfl]
      exact stands.quiet
  | leave =>
    cases phase with
    | idle | lasting =>
      rw [stands.leave_of_not_running nofun]
      exact stands.quiet
    | running =>
      cases teardown : settings.supportTeardown with
      | true => exact (stands.leave_of_teardown teardown).2
      | false =>
        rw [stands.leave_of_lasting teardown]
        exact ⟨stands.settings_eq, rfl, stands.binders, stands.bus, stands.clustered,
          fun _ => teardown⟩
  | request method target =>
    rw [after_report_request]
    cases phase <;> exact stands.quiet
  | step asked => cases phase <;> exact stands.report_other leaves

/-- Steps one after another lead it through one phase after another. -/
theorem afterAll (stands : Stands settings phase host) {steps : List HostStep}
    (leave : ∀ step ∈ steps, step.LeavesBus) :
    Stands settings (steps.foldl (Phase.next settings.supportTeardown) phase)
      (host.afterAll steps) := by
  induction steps generalizing phase host with
  | nil => exact stands
  | cons step rest ih =>
    obtain ⟨here, others⟩ := List.forall_mem_cons.1 leave
    exact ih (stands.report here) others

end Stands

end Host

end Invalidation
