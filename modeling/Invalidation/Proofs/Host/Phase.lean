import Invalidation.Host
import Invalidation.Proofs.World.Delivery

/-!
# The phases of a host

Of all that a host does, only to enter and to leave it concerns its binder and its bus, which are at
any time as a `Phase` tells. `Host.Stands` ties the two together, and what it is to enter and to
leave a host follows from its phase.
-/

set_option autoImplicit false

namespace Invalidation

namespace Bus

/-- The router is attached to all bound topics, in order, and nothing else to anything. -/
def serving : Bus := ⟨Topic.bound.map fun topic => (.notification topic, .router)⟩

theorem attachAll_empty :
    Topic.bound.foldl (fun (bus : Bus) topic => bus.attach topic) .empty = .serving := by
  rw [attachAll_eq]
  rfl

theorem detachAll_serving :
    Topic.bound.foldl (fun (bus : Bus) topic => bus.detach topic) .serving = .empty := by
  have detached := detachAll_eq Topic.bound []
  rwa [List.append_nil] at detached

theorem onlyRouter_serving : Bus.serving.OnlyRouter := by
  intro subscription member
  obtain ⟨topic, -, rfl⟩ := List.mem_map.1 member
  rfl

end Bus

/-! ### The one binder of a host -/

namespace World

variable {world : World} {binder : Binder}

/-- A binder that is alone is the one of a host. -/
theorem onBinder_alone (alone : world.binders = [binder])
    (act : Binder → Bus → Except Failure (Binder × Bus))
    (finish : Nat → Binder → Binder × Bus → Attempt World Unit) :
    onBinder act finish Host.binderIndex world =
      match act binder world.bus with
      | .error failure => .error failure world
      | .ok next => finish 0 binder next world := by
  obtain ⟨bus, binders, outlet, program⟩ := world
  obtain rfl : binders = [binder] := alone
  have found : Index.resolve [binder].length Host.binderIndex = .ok ⟨0, Nat.one_pos⟩ := rfl
  cases acted : act binder bus with
  | error failure => exact onBinder_of_error found acted
  | ok next =>
    exact @onBinder_of_ok act finish Host.binderIndex ⟨bus, [binder], outlet, program⟩ _ next found
      acted

theorem start_alone (alone : world.binders = [binder]) (unbound : binder.bound = false)
    (teardown : Bool) :
    start Host.binderIndex teardown world =
      .ok () { world with
        outlet.notices := world.outlet.notices ++ [.log (.binding Topic.bound.length)]
        binders := [⟨true, if teardown then some Topic.bound else none⟩]
        bus := Topic.bound.foldl (fun bus topic => bus.attach topic) world.bus } := by
  obtain ⟨bus, binders, outlet, program⟩ := world
  rw [start_eq_onBinder, onBinder_alone alone, Binder.start_eq_ok_iff.2 ⟨unbound, rfl, rfl⟩]
  obtain rfl : binders = [binder] := alone
  rfl

theorem start_alone_of_bound (alone : world.binders = [binder]) (bound : binder.bound = true)
    (teardown : Bool) :
    start Host.binderIndex teardown world = .error .alreadyBound world := by
  rw [start_eq_onBinder, onBinder_alone alone, Binder.start_of_bound bound]

theorem stop_alone (alone : world.binders = [binder]) {topics : List Topic}
    (retains : binder.detachments = some topics) :
    stop Host.binderIndex world =
      .ok () { world with
        outlet.notices := world.outlet.notices ++ [.log (.unbound topics.length)]
        binders := [.new]
        bus := topics.foldl (fun bus topic => bus.detach topic) world.bus } := by
  obtain ⟨bus, binders, outlet, program⟩ := world
  rw [stop_eq_onBinder, onBinder_alone alone, Binder.stop_eq_ok_iff.2 ⟨topics, retains, rfl, rfl⟩,
    retains]
  obtain rfl : binders = [binder] := alone
  rfl

end World

/-! ### Phases -/

/-- Where a host is in its life. -/
inductive Phase where
  /-- Nothing is bound. -/
  | idle
  /-- The host was entered, and not left since. -/
  | running
  /-- The host was left and the handlers stay bound. -/
  | lasting
  deriving DecidableEq, Repr

namespace Phase

def bound : Phase → Bool
  | idle => false
  | running | lasting => true

def binder (teardown : Bool) (phase : Phase) : Binder :=
  if phase.bound then ⟨true, if teardown then some Topic.bound else none⟩ else .new

def bus (phase : Phase) : Bus := if phase.bound then .serving else .empty

/-- The phase behind a step: only an idle host can be entered, and only a running one left. -/
def next (teardown : Bool) : Phase → HostStep → Phase
  | idle, .enter => running
  | running, .leave => if teardown then idle else lasting
  | phase, _ => phase

end Phase

namespace Host

/-- The host has these settings and is in the phase. -/
structure Stands (settings : Settings) (phase : Phase) (host : Host) : Prop where
  settings_eq : host.settings = settings
  entered : host.entered = (phase == .running)
  binders : host.world.binders = [phase.binder settings.supportTeardown]
  bus : host.world.bus = phase.bus
  clustered : host.world.outlet.sink.kind = .cluster
  /-- Handlers only stay bound without teardown. -/
  lasting : phase = .lasting → settings.supportTeardown = false

variable {settings : Settings} {phase : Phase} {host : Host}

/-! ### Entering and leaving -/

theorem onWorld_apply {α : Type} (action : Attempt World α) (host : Host) :
    onWorld action host =
      match action host.world with
      | .ok value world => .ok value { host with world := world }
      | .error failure world => .error failure { host with world := world } := by
  unfold onWorld Attempt.onPart
  cases action host.world <;> rfl

theorem after_report (step : HostStep) (host : Host) :
    (host.report step).after = (perform step).after host.quiet := by
  unfold report Attempt.after
  cases perform step host.quiet <;> rfl

theorem report_of_ok {step : HostStep} {reply : HostReply} {after : Host}
    (performed : perform step host.quiet = .ok reply after) :
    host.report step = ⟨.ok reply, after.world.outlet.notices, after⟩ := by
  rw [report, performed]

theorem report_of_error {step : HostStep} {failure : Failure} {after : Host}
    (performed : perform step host.quiet = .error failure after) :
    host.report step = ⟨.error failure, after.world.outlet.notices, after⟩ := by
  rw [report, performed]

theorem perform_enter (host : Host) :
    perform .enter host = Attempt.answering (.reply .done) (enter host) :=
  Attempt.answer_apply enter (HostReply.reply .done) host

theorem perform_leave (host : Host) :
    perform .leave host = Attempt.answering (.reply .done) (leave host) :=
  Attempt.answer_apply leave (HostReply.reply .done) host

theorem enter_apply (host : Host) :
    enter host =
      match World.start binderIndex host.settings.supportTeardown host.world with
      | .ok () world => .ok () { host with world := world, entered := true }
      | .error failure world => .error failure { host with world := world } := by
  have opened : enter host =
      (onWorld (World.start binderIndex host.settings.supportTeardown) >>= fun _ =>
        modify fun host => { host with entered := true }) host := rfl
  rw [opened, Attempt.bind_apply, onWorld_apply]
  cases World.start binderIndex host.settings.supportTeardown host.world <;> rfl

/-- To leave is to stop the binder, if there is an entry to end and with teardown. -/
theorem leave_apply (host : Host) :
    leave host =
      if host.entered = false then .ok () host
      else if host.settings.supportTeardown = false then .ok () { host with entered := false }
      else
        match World.stop binderIndex host.world with
        | .ok () world => .ok () { host with world := world, entered := false }
        | .error failure world =>
          .error failure { host with world := world, entered := false } := by
  obtain ⟨settings, world, entered⟩ := host
  cases entered with
  | false => rfl
  | true =>
    have opened : leave ⟨settings, world, true⟩ =
        (if settings.supportTeardown then onWorld (World.stop binderIndex) else pure ())
          ⟨settings, world, false⟩ := rfl
    rw [opened]
    cases settings.supportTeardown with
    | false => rfl
    | true =>
      rw [if_pos rfl, onWorld_apply]
      dsimp only
      cases World.stop binderIndex world <;> rfl

namespace Stands

theorem quiet (stands : Stands settings phase host) : Stands settings phase host.quiet :=
  ⟨stands.settings_eq, stands.entered, stands.binders, stands.bus, stands.clustered, stands.lasting⟩

theorem enter_of_idle (stands : Stands settings .idle host) :
    (host.report .enter).outcome = .ok (.reply .done) ∧
      Stands settings .running (host.report .enter).after := by
  have started := World.start_alone stands.quiet.binders rfl settings.supportTeardown
  have entered := perform_enter host.quiet
  rw [enter_apply, stands.quiet.settings_eq, started, stands.quiet.bus] at entered
  have told : host.report .enter = _ := report_of_ok entered
  rw [told]
  exact ⟨rfl, rfl, rfl, rfl, Bus.attachAll_empty, stands.clustered, nofun⟩

theorem enter_of_bound (stands : Stands settings phase host) (bound : phase.bound = true) :
    host.report .enter = ⟨.error .alreadyBound, [], host.quiet⟩ := by
  have refused := World.start_alone_of_bound stands.quiet.binders
    (by rw [Phase.binder, if_pos bound]) host.settings.supportTeardown
  have entered := perform_enter host.quiet
  have same : host.quiet.settings = host.settings := rfl
  rw [enter_apply, same, refused] at entered
  exact report_of_error entered

/-- A host that does not run does nothing when it is left. -/
theorem leave_of_not_running (stands : Stands settings phase host) (out : phase ≠ .running) :
    host.report .leave = ⟨.ok (.reply .done), [], host.quiet⟩ := by
  have left := perform_leave host.quiet
  rw [leave_apply, if_pos (by simpa [stands.quiet.entered] using out)] at left
  exact report_of_ok left

/-- A running host is left without stopping anything if there is no teardown. -/
theorem leave_of_lasting (stands : Stands settings .running host)
    (lasts : settings.supportTeardown = false) :
    host.report .leave = ⟨.ok (.reply .done), [], { host.quiet with entered := false }⟩ := by
  have left := perform_leave host.quiet
  rw [leave_apply, if_neg (by simp [stands.quiet.entered]),
    if_pos (by rw [stands.quiet.settings_eq, lasts])] at left
  exact report_of_ok left

/-- With teardown a running host is idle when it was left. -/
theorem leave_of_teardown (stands : Stands settings .running host)
    (teardown : settings.supportTeardown = true) :
    (host.report .leave).outcome = .ok (.reply .done) ∧
      Stands settings .idle (host.report .leave).after := by
  have retains : (Phase.running.binder settings.supportTeardown).detachments =
      some Topic.bound := by
    rw [teardown]
    rfl
  have stopped := World.stop_alone stands.quiet.binders retains
  have left := perform_leave host.quiet
  rw [leave_apply, if_neg (by simp [stands.quiet.entered]),
    if_neg (by rw [stands.quiet.settings_eq, teardown]; decide), stopped, stands.quiet.bus] at left
  have told : host.report .leave = _ := report_of_ok left
  rw [told]
  exact ⟨rfl, stands.settings_eq, rfl, rfl, Bus.detachAll_serving, stands.clustered, nofun⟩

end Stands

end Host

end Invalidation
