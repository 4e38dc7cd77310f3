import Invalidation.Proofs.Recorder.Handling
import Invalidation.Proofs.World.Lifecycle

/-!
# Delivery to the bound binders

When only binders were started and stopped, a bound topic has the router once for each bound binder
and nothing else has any handler. So a record on a bound topic is handled once for each of them, and
any other record by nobody (`publish_reaches_each_bound_binder`).
-/

set_option autoImplicit false

namespace Invalidation

def Step.IsTurn : Step → Prop
  | .start _ _ | .stop _ => True
  | _ => False

namespace Bus

/-- Nothing but the router is subscribed. -/
def OnlyRouter (bus : Bus) : Prop := ∀ subscription ∈ bus.subscriptions, subscription.2 = .router

theorem OnlyRouter.handlers_eq {bus : Bus} (only : bus.OnlyRouter) (cls : RecordClass) :
    bus.handlers cls = List.replicate ((bus.handlers cls).count .router) .router := by
  have all : ∀ handler ∈ bus.handlers cls, handler = .router := by
    intro handler member
    obtain ⟨subscription, kept, rfl⟩ := List.mem_map.1 member
    exact only subscription (List.mem_filter.1 kept).1
  have whole : (bus.handlers cls).count .router = (bus.handlers cls).length :=
    List.count_eq_length.2 fun handler member => (all handler member).symm
  rw [whole]
  exact List.eq_replicate_of_mem all

theorem OnlyRouter.attachAll {bus : Bus} (only : bus.OnlyRouter) (topics : List Topic) :
    (topics.foldl (fun bus topic => bus.attach topic) bus).OnlyRouter := by
  induction topics generalizing bus with
  | nil => exact only
  | cons topic rest ih =>
    refine ih fun subscription member => ?_
    rcases List.mem_append.1 member with old | new
    · exact only subscription old
    · rw [List.mem_singleton.1 new]

theorem OnlyRouter.detachAll {bus : Bus} (only : bus.OnlyRouter) (topics : List Topic) :
    (topics.foldl (fun bus topic => bus.detach topic) bus).OnlyRouter := by
  induction topics generalizing bus with
  | nil => exact only
  | cons topic rest ih =>
    exact ih fun subscription member => only subscription (List.mem_of_mem_erase member)

end Bus

namespace World

/-- Only binders acted on the bus, and nothing on the sink. -/
structure Standby (sink : Sink) (now : World) : Prop where
  wired : Wired now.bus now.binders
  only : now.bus.OnlyRouter
  sink_eq : now.outlet.sink = sink

namespace Standby

variable {sink : Sink} {now : World}

theorem rest (sink : Sink) (count : Nat) (program : String → List Step) :
    Standby sink (new sink count program) where
  wired := .rest count
  only := by simp [new, Bus.OnlyRouter, Bus.empty]
  sink_eq := rfl

theorem quiet (standby : Standby sink now) : Standby sink now.quiet :=
  ⟨standby.wired, standby.only, standby.sink_eq⟩

theorem report (standby : Standby sink now) {step : Step} (turn : step.IsTurn) :
    Standby sink (now.report step).after := by
  rw [after_report, Attempt.after]
  cases step with
  | start index teardown =>
    rw [perform_start, start_eq_onBinder]
    rcases onBinder_cases (Binder.start (teardown.any Raw.truthy)) _ index now.quiet with
      ⟨_, failed⟩ | ⟨place, binder, next, here, started, done⟩
    · rw [failed]
      exact ⟨standby.wired, standby.only, standby.sink_eq⟩
    · rw [done]
      obtain ⟨_, _, left⟩ := Binder.start_eq_ok_iff.1 started
      exact ⟨standby.wired.start here started, left ▸ standby.only.attachAll _, standby.sink_eq⟩
  | stop index =>
    rw [perform_stop, stop_eq_onBinder]
    rcases onBinder_cases Binder.stop _ index now.quiet with
      ⟨_, failed⟩ | ⟨place, binder, next, here, stopped, done⟩
    · rw [failed]
      exact ⟨standby.wired, standby.only, standby.sink_eq⟩
    · rw [done]
      obtain ⟨topics, _, _, left⟩ := Binder.stop_eq_ok_iff.1 stopped
      exact ⟨standby.wired.stop here stopped, left ▸ standby.only.detachAll topics, standby.sink_eq⟩
  | _ => exact turn.elim

theorem afterAll (standby : Standby sink now) {steps : List Step}
    (turns : ∀ step ∈ steps, step.IsTurn) : Standby sink (now.afterAll steps) := by
  induction steps generalizing now with
  | nil => exact standby
  | cons step rest ih =>
    obtain ⟨turn, others⟩ := List.forall_mem_cons.1 turns
    exact ih (standby.report turn) others

/-- A bound topic has the router once for each bound binder, and no other handler. -/
theorem handlers_of_bound (standby : Standby sink now) {topic : Topic}
    (bound : topic ∈ Topic.bound) :
    now.bus.handlers (.notification topic) =
      List.replicate (now.binders.countP Binder.bound) .router := by
  rw [standby.only.handlers_eq, standby.wired.attached,
    if_pos (RecordClass.notification_mem_bound.2 bound)]

theorem handlers_of_unbound (standby : Standby sink now) {topic : Topic}
    (unbound : topic ∉ Topic.bound) : now.bus.handlers (.notification topic) = [] := by
  rw [standby.only.handlers_eq, standby.wired.attached,
    if_neg (mt RecordClass.notification_mem_bound.1 unbound)]
  rfl

end Standby

variable {recorder : Recorder} {event : Notification} {commands : List Command}

/-- The router records the commands that answer a notification. -/
theorem react_router_records (accepts : ∀ call, recorder.refuses call = .ok false)
    (routed : event.commands (Sink.recorder recorder).batches = .ok commands) (depth : Nat)
    (now : World) (notices : List Notice) :
    ∃ later, react (depth + 1) .router (.notification event)
        { now with outlet := ⟨.recorder recorder, notices⟩ } =
      .ok () { now with outlet := ⟨.recorder (recorder.recordAll commands), later⟩ } := by
  obtain ⟨later, handled⟩ := Outlet.handle_records accepts routed notices
  refine ⟨later, ?_⟩
  have opened : react (depth + 1) .router (.notification event)
        { now with outlet := ⟨.recorder recorder, notices⟩ } =
      (onOutlet (Outlet.handle event) >>= fun _ => pure ())
        { now with outlet := ⟨.recorder recorder, notices⟩ } := rfl
  rw [opened, Attempt.answer_apply, onOutlet, Attempt.onPart, handled]
  rfl

theorem forM_react_router_records (accepts : ∀ call, recorder.refuses call = .ok false)
    (routed : event.commands (Sink.recorder recorder).batches = .ok commands) (depth calls : Nat)
    (now : World) (notices : List Notice) :
    ∃ later, (List.replicate calls Handler.router).forM
        (fun handler => react (depth + 1) handler (.notification event))
        { now with outlet := ⟨.recorder recorder, notices⟩ } =
      .ok () { now with outlet :=
        ⟨.recorder (recorder.recordAll (List.replicate calls commands).flatten), later⟩ } := by
  induction calls generalizing recorder notices with
  | zero =>
    refine ⟨notices, ?_⟩
    rw [List.replicate_zero, List.replicate_zero, List.flatten_nil, Recorder.recordAll_nil]
    rfl
  | succ calls ih =>
    obtain ⟨between, first⟩ := react_router_records accepts routed depth now notices
    have accepts_still : ∀ call, (recorder.recordAll commands).refuses call = .ok false := accepts
    obtain ⟨later, others⟩ := ih accepts_still routed between
    refine ⟨later, ?_⟩
    rw [List.replicate_succ, Attempt.forM_cons_apply, first, List.replicate_succ,
      List.flatten_cons, Recorder.recordAll_append]
    exact others

theorem perform_route {react : Handler → Record → Attempt World Unit} {draft : Draft} {now : World}
    (reads : draft.read = .valid (.notification event))
    (routed : event.commands now.outlet.sink.batches = .ok commands) :
    perform react (.route draft) now = .ok (.commands commands) now := by
  have opened : perform react (.route draft) now =
      (Attempt.ofChecked draft.read >>= fun record => notification record >>= fun event =>
        onOutlet (Outlet.route event) >>= fun commands => pure (Reply.commands commands)) now := rfl
  have found : onOutlet (Outlet.route event) now = .ok commands now := by
    have here : Outlet.route event now.outlet = .ok commands now.outlet := by
      change Attempt.ofExcept (event.commands now.outlet.sink.batches) now.outlet = _
      rw [routed]
      rfl
    rw [onOutlet, Attempt.onPart, here]
  rw [opened, reads]
  change (onOutlet (Outlet.route event) >>= fun commands => pure (Reply.commands commands)) now = _
  rw [Attempt.bind_apply, found]
  rfl

namespace Standby

variable {now : World} {draft : Draft}

/-- A notification on a bound topic is handled once for each bound binder. -/
theorem publish_bound (standby : Standby (.recorder recorder) now)
    (accepts : ∀ call, recorder.refuses call = .ok false)
    (reads : draft.read = .valid (.notification event)) (bound : event.topic ∈ Topic.bound)
    (routed : event.commands (Sink.recorder recorder).batches = .ok commands) (depth : Nat) :
    ∃ later, perform (react (depth + 1)) (.publish draft) now = .ok .done { now with outlet :=
      ⟨.recorder (recorder.recordAll
        (List.replicate (now.binders.countP Binder.bound) commands).flatten), later⟩ } := by
  obtain ⟨bus, binders, ⟨sink, notices⟩, program⟩ := now
  obtain rfl : sink = .recorder recorder := standby.sink_eq
  obtain ⟨later, called⟩ := forM_react_router_records accepts routed depth
    (binders.countP Binder.bound) ⟨bus, binders, ⟨.recorder recorder, notices⟩, program⟩ notices
  have served : bus.handlers (Record.notification event).cls = _ := standby.handlers_of_bound bound
  refine ⟨later, ?_⟩
  rw [perform_publish reads, served, called]
  rfl

theorem publish_unbound {sink : Sink} (standby : Standby sink now)
    (reads : draft.read = .valid (.notification event)) (unbound : event.topic ∉ Topic.bound)
    (react : Handler → Record → Attempt World Unit) :
    perform react (.publish draft) now = .ok .done now := by
  have unserved : now.bus.handlers (Record.notification event).cls = [] :=
    standby.handlers_of_unbound unbound
  rw [perform_publish reads, unserved]
  rfl

theorem report_publish_bound (standby : Standby (.recorder recorder) now)
    (accepts : ∀ call, recorder.refuses call = .ok false)
    (reads : draft.read = .valid (.notification event)) (bound : event.topic ∈ Topic.bound)
    (routed : event.commands (Sink.recorder recorder).batches = .ok commands) :
    ∃ later, now.report (.publish draft) = ⟨.ok .done, later, { now with outlet :=
      ⟨.recorder (recorder.recordAll
        (List.replicate (now.binders.countP Binder.bound) commands).flatten), later⟩ }⟩ := by
  obtain ⟨depth, deep⟩ : ∃ depth, reactionDepth = depth + 1 := ⟨_, rfl⟩
  obtain ⟨later, performed⟩ := standby.quiet.publish_bound accepts reads bound routed depth
  rw [← deep] at performed
  exact ⟨later, report_of_ok performed⟩

theorem report_publish_unbound {sink : Sink} (standby : Standby sink now)
    (reads : draft.read = .valid (.notification event)) (unbound : event.topic ∉ Topic.bound) :
    now.report (.publish draft) = ⟨.ok .done, [], now.quiet⟩ :=
  report_of_ok (standby.quiet.publish_unbound reads unbound (react reactionDepth))

/-- What a notification is answered with can be asked for at any time. -/
theorem report_route {sink : Sink} (standby : Standby sink now)
    (reads : draft.read = .valid (.notification event))
    (routed : event.commands sink.batches = .ok commands) :
    now.report (.route draft) = ⟨.ok (.commands commands), [], now.quiet⟩ :=
  report_of_ok (perform_route reads (by rwa [standby.quiet.sink_eq]))

end Standby

/-- Of a binder with teardown that was started, stopped and started again, one start is left, and
none after its stop. -/
theorem countP_bound_of_restart (sink : Sink) {count : Nat} (program : String → List Step)
    {index : Raw} {place : Fin count} (found : Index.resolve count index = .ok place)
    {first : Option Raw} (teardown : first.any Raw.truthy = true) (last : Option Raw) :
    let again := (new sink count program).afterAll
      [.start index first, .stop index, .start index last]
    again.binders.countP Binder.bound = 1 ∧
      (last.any Raw.truthy = true →
        (again.report (.stop index)).after.binders.countP Binder.bound = 0) := by
  intro again
  have fresh : Course (new sink count program) [] (new sink count program) := .rest
  have started := fresh.report_start found rfl first
  rw [teardown] at started
  have stopped := started.report_stop found (by
    rw [Turn.standing_started]
    exact Option.some_ne_none _)
  have restarted : Course _ _ again := stopped.report_start found (by
    rw [Turn.standing_stopped]
    rfl) last
  constructor
  · rw [restarted.countP_bound place (by simp [Turn.place]), Turn.standing_started]
    rfl
  · intro retaining
    rw [retaining] at restarted
    have ended := restarted.report_stop found (by
      rw [Turn.standing_started]
      exact Option.some_ne_none _)
    rw [ended.countP_bound place (by simp [Turn.place]), Turn.standing_stopped]
    rfl

/-- After any starts and stops, a notification that is published on a bound topic is routed and
recorded once for each bound binder, whatever it was read from, and on any other topic not at all.
A binder that was started, stopped and started again counts once, and not any more when it is
stopped. -/
theorem publish_reaches_each_bound_binder (recorder : Recorder)
    (accepts : ∀ call, recorder.refuses call = .ok false) (count : Nat)
    (program : String → List Step) :
    (∀ steps, (∀ step ∈ steps, step.IsTurn) →
      ∀ draft event, draft.read = .valid (.notification event) →
        let fresh := new (.recorder recorder) count program
        let now := fresh.afterAll steps
        let told := now.report (.publish draft)
        fresh.run (steps ++ [.publish draft]) = fresh.run steps ++ [told] ∧
        (event.topic ∈ Topic.bound → ∃ commands,
          (now.report (.route draft)).outcome = .ok (.commands commands) ∧
          told.outcome = .ok .done ∧
          told.after = { now with outlet :=
            ⟨.recorder { recorder with commands := recorder.commands ++
              (List.replicate (now.binders.countP Binder.bound) commands).flatten },
            told.notices⟩ }) ∧
        (event.topic ∉ Topic.bound →
          told.outcome = .ok .done ∧ told.notices = [] ∧ told.after = now.quiet)) ∧
    ∀ index (place : Fin count), Index.resolve count index = .ok place →
      ∀ first last : Option Raw, first.any Raw.truthy = true →
        let again := (new (.recorder recorder) count program).afterAll
          [.start index first, .stop index, .start index last]
        again.binders.countP Binder.bound = 1 ∧
        (last.any Raw.truthy = true →
          (again.report (.stop index)).after.binders.countP Binder.bound = 0) := by
  constructor
  · intro steps turns draft event reads fresh now told
    have standby : Standby (.recorder recorder) now :=
      (Standby.rest (.recorder recorder) count program).afterAll turns
    refine ⟨run_append_singleton steps (.publish draft) fresh, ?_, ?_⟩
    · intro bound
      obtain ⟨commands, routed⟩ :=
        Notification.exists_commands_of_bound bound (Sink.recorder recorder).batches
      obtain ⟨later, published⟩ := standby.report_publish_bound accepts reads bound routed
      rw [show told = _ from published, standby.report_route reads routed]
      exact ⟨commands, rfl, rfl, rfl⟩
    · intro unbound
      rw [show told = _ from standby.report_publish_unbound reads unbound]
      exact ⟨rfl, rfl, rfl⟩
  · intro index place found first last teardown
    exact countP_bound_of_restart (.recorder recorder) program found teardown last

/-- Two binders are bound, one of them for the second time. -/
theorem publish_reaches_two_bound_binders :
    let recorder : Recorder := ⟨none, false, Recorder.acceptAll, []⟩
    let steps : List Step :=
      [.start (.int 0) (some (.bool true)), .start (.int 1) none, .stop (.int 0), .stop (.int 1),
       .start (.int 0) none]
    let now := (new (.recorder recorder) 2 fun _ => []).afterAll steps
    let draft : Draft := ⟨.notification (.saved .language),
      .object [("entities", .list [.object [("id", .int 7)]])]⟩
    let event : Notification :=
      { topic := .saved .language
        kind := .item .language
        payload := .entities [⟨7⟩]
        admitted := fun _ pinned => Option.some.inj pinned }
    draft.read = .valid (.notification event) ∧ now.binders.map Binder.bound = [true, true] ∧
      (now.report (.publish draft)).outcome = .ok .done ∧
      (now.report (.publish draft)).after = { now with outlet :=
        ⟨.recorder { recorder with
          commands := [⟨.language, .refresh, [7]⟩, ⟨.language, .refresh, [7]⟩] },
        (now.report (.publish draft)).notices⟩ } := by
  intro recorder steps now draft event
  have turns : ∀ step ∈ steps, step.IsTurn := by simp [steps, Step.IsTurn]
  have reads : draft.read = .valid (.notification event) := by decide
  have both : now.binders.map Binder.bound = [true, true] := by decide
  have twice : now.binders.countP Binder.bound = 2 := by decide
  obtain ⟨reaches, -⟩ := publish_reaches_each_bound_binder recorder (fun _ => rfl) 2 fun _ => []
  obtain ⟨commands, routed, answered, after⟩ :=
    (reaches steps turns draft event reads).2.1 (by decide)
  refine ⟨reads, both, answered, ?_⟩
  have known : (now.report (.route draft)).outcome =
      .ok (.commands [⟨.language, .refresh, [7]⟩]) := rfl
  obtain rfl := Reply.commands.inj (Except.ok.inj (routed.symm.trans known))
  rw [after, twice]
  rfl

end World

end Invalidation
