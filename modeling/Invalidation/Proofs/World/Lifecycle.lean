import Invalidation.Proofs.World.Course

/-!
# The life of the binders

All binders share one bus, on which their attachments look alike, and each keeps in two fields
whether it is bound and what it retains. On every course that begins at rest these agree
(`Course.wired`), and a binder is always as its latest turn left it (`Course.binders_eq`). Together
that settles how a start or a stop ends at any moment (`Settled`).
-/

set_option autoImplicit false

namespace Invalidation

namespace Turn

/-- The latest turn of the binder at a place. -/
def latest? (turns : List Turn) (place : Nat) : Option Turn :=
  turns.reverse.find? fun turn => turn.place == place

/-- The state that the turns leave the binder at a place in. -/
def standing (turns : List Turn) (place : Nat) : Binder :=
  ((latest? turns place).map left).getD .new

theorem latest?_append_singleton (turns : List Turn) (turn : Turn) (place : Nat) :
    latest? (turns ++ [turn]) place =
      if turn.place = place then some turn else latest? turns place := by
  simp [latest?, List.find?_cons]
  split <;> simp_all

theorem standing_append_singleton (turns : List Turn) (turn : Turn) (place : Nat) :
    standing (turns ++ [turn]) place =
      if turn.place = place then turn.left else standing turns place := by
  unfold standing
  rw [latest?_append_singleton]
  split <;> rfl

theorem standing_started (turns : List Turn) (place : Nat) (teardown : Bool) :
    standing (turns ++ [.started place teardown]) place =
      ⟨true, if teardown then some Topic.bound else none⟩ :=
  (standing_append_singleton turns (.started place teardown) place).trans (if_pos rfl)

theorem standing_stopped (turns : List Turn) (place : Nat) :
    standing (turns ++ [.stopped place]) place = .new :=
  (standing_append_singleton turns (.stopped place) place).trans (if_pos rfl)

theorem place_of_latest? {turns : List Turn} {place : Nat} {turn : Turn}
    (latest : latest? turns place = some turn) : turn.place = place := by
  simpa using List.find?_some latest

theorem bound_standing_iff {turns : List Turn} {place : Nat} :
    (standing turns place).bound = true ↔
      ∃ teardown, latest? turns place = some (.started place teardown) := by
  unfold standing
  cases latest : latest? turns place with
  | none => simp [Binder.new]
  | some turn =>
    obtain rfl := place_of_latest? latest
    cases turn with
    | started place teardown => simp [left, Turn.place]
    | stopped place => simp [left, Turn.place, Binder.new]

/-- Nothing is retained by a binder that was never started, was started without teardown or was
stopped. -/
theorem detachments_standing_eq_none_iff {turns : List Turn} {place : Nat} :
    (standing turns place).detachments = none ↔
      latest? turns place = none ∨ latest? turns place = some (.started place false) ∨
        latest? turns place = some (.stopped place) := by
  unfold standing
  cases latest : latest? turns place with
  | none => simp [Binder.new]
  | some turn =>
    obtain rfl := place_of_latest? latest
    cases turn with
    | started place teardown => cases teardown <;> simp [left, Turn.place]
    | stopped place => simp [left, Turn.place, Binder.new]

end Turn

namespace World

variable {sink : Sink} {count : Nat} {program : String → List Step} {turns : List Turn}
  {now : World}

theorem Course.wired (course : Course (new sink count program) turns now) :
    Wired now.bus now.binders := by
  induction course with
  | rest => exact .rest count
  | start _ _ here started ih => exact ih.start here started
  | stop _ here stopped ih => exact ih.stop here stopped
  | subscribe topic probe _ ih => exact ih.subscribe topic probe
  | unsubscribe topic probe _ ih => exact ih.unsubscribe topic probe
  | outlet _ _ ih => exact ih

/-- The binders are as their latest turns left them. -/
theorem Course.binders_eq (course : Course (new sink count program) turns now) :
    now.binders = (List.range count).map (Turn.standing turns) := by
  have turned (turns : List Turn) (turn : Turn) :
      ((List.range count).map (Turn.standing turns)).set turn.place turn.left =
        (List.range count).map (Turn.standing (turns ++ [turn])) :=
    List.ext_getElem (by simp) fun place _ _ => by
      simp [List.getElem_set, Turn.standing_append_singleton]
  induction course with
  | rest =>
    have idle : Turn.standing [] = fun _ => Binder.new := rfl
    rw [idle, List.map_const', List.length_range]
    rfl
  | @start turns now place binder after bus teardown _ here started ih =>
    obtain ⟨_, rfl, _⟩ := Binder.start_eq_ok_iff.1 started
    rw [← turned, ← ih]
    rfl
  | @stop turns now place binder after bus _ here stopped ih =>
    obtain ⟨_, _, rfl, _⟩ := Binder.stop_eq_ok_iff.1 stopped
    rw [← turned, ← ih]
    rfl
  | subscribe _ _ _ ih | unsubscribe _ _ _ ih | outlet _ _ ih => exact ih

theorem Course.get_binders (course : Course (new sink count program) turns now)
    (place : Fin now.binders.length) : now.binders.get place = Turn.standing turns place := by
  simp [course.binders_eq]

theorem Course.standing_of_getElem? (course : Course (new sink count program) turns now)
    {place : Nat} {binder : Binder} (here : now.binders[place]? = some binder) :
    binder = Turn.standing turns place := by
  obtain ⟨inside, rfl⟩ := List.getElem?_eq_some_iff.1 here
  exact course.get_binders ⟨place, inside⟩

theorem after_report (step : Step) (world : World) :
    (world.report step).after = (perform (react reactionDepth) step).after world.quiet := by
  unfold report Attempt.after
  cases perform (react reactionDepth) step world.quiet <;> rfl

def afterAll (steps : List Step) (world : World) : World :=
  steps.foldl (fun now step => (now.report step).after) world

theorem afterAll_append_singleton (steps : List Step) (step : Step) (world : World) :
    world.afterAll (steps ++ [step]) = ((world.afterAll steps).report step).after := by
  rw [afterAll, afterAll, List.foldl_append, List.foldl_cons, List.foldl_nil]

theorem run_append_singleton (steps : List Step) (step : Step) (world : World) :
    world.run (steps ++ [step]) = world.run steps ++ [(world.afterAll steps).report step] := by
  induction steps generalizing world with
  | nil => rfl
  | cons first rest ih => exact congrArg (world.report first :: ·) (ih (world.report first).after)

/-- Steps one after another lead along one course. -/
theorem Course.run {origin : World} (orderly : origin.Orderly) {steps : List Step}
    (leave : ∀ step ∈ steps, step.LeavesRouter) (before : Course origin turns now) :
    ∀ report ∈ now.run steps, ∃ turns, Course origin turns report.after := by
  induction steps generalizing turns now with
  | nil => simp [World.run]
  | cons step rest ih =>
    obtain ⟨first, others⟩ := List.forall_mem_cons.1 leave
    have quiet : Course origin turns now.quiet := before.outlet _
    obtain ⟨more, course⟩ := steady_perform (steady_react reactionDepth) first now.quiet
      (quiet.orderly orderly)
    have here : Course origin (turns ++ more) (now.report step).after := by
      rw [after_report]
      exact quiet.trans course
    intro report member
    rcases List.mem_cons.1 member with rfl | later
    · exact ⟨_, here⟩
    · exact ih others here report later

/-- What holds of a world at any moment, after these turns since all was at rest. -/
structure Settled (rest : World) (turns : List Turn) (now : World) : Prop where
  /-- A bound topic has the router as often as binders are bound. -/
  attached : ∀ topic ∈ Topic.bound,
    (now.bus.handlers (.notification topic)).count .router = now.binders.countP Binder.bound
  /-- Nothing else has the router. -/
  elsewhere : ∀ cls ∉ RecordClass.bound, .router ∉ now.bus.handlers cls
  /-- A binder is bound if its latest turn was a start, and only then. -/
  started : ∀ place binder, now.binders[place]? = some binder →
    (binder.bound = true ↔ ∃ teardown, Turn.latest? turns place = some (.started place teardown))
  /-- A binder that retains detachments is bound. -/
  retained : ∀ binder ∈ now.binders, binder.detachments ≠ none → binder.bound = true
  /-- A binder retains nothing if it was never started, was started without teardown, or was
  stopped, and only then. -/
  released : ∀ place binder, now.binders[place]? = some binder →
    (binder.detachments = none ↔
      Turn.latest? turns place = none ∨ Turn.latest? turns place = some (.started place false) ∨
        Turn.latest? turns place = some (.stopped place))
  /-- A bound binder cannot be started, and nothing changes. -/
  start_bound : ∀ react index teardown place,
    Index.resolve now.binders.length index = .ok place → (now.binders.get place).bound = true →
      perform react (.start index teardown) now = .error .alreadyBound now
  /-- Any other binder can. -/
  start_unbound : ∀ react index teardown place,
    Index.resolve now.binders.length index = .ok place → (now.binders.get place).bound = false →
      ∃ after, perform react (.start index teardown) now = .ok .done after ∧
        Course rest (turns ++ [.started place (teardown.any Raw.truthy)]) after
  /-- A binder that retains nothing cannot be stopped, and nothing changes. -/
  stop_released : ∀ react index place,
    Index.resolve now.binders.length index = .ok place →
      (now.binders.get place).detachments = none →
        perform react (.stop index) now = .error .nothingRetained now
  /-- Any other binder can. -/
  stop_retaining : ∀ react index place,
    Index.resolve now.binders.length index = .ok place →
      (now.binders.get place).detachments ≠ none →
        ∃ after, perform react (.stop index) now = .ok .done after ∧
          Course rest (turns ++ [.stopped place]) after
  /-- Nothing changes either if there is no such binder. -/
  missing : ∀ react index teardown failure,
    Index.resolve now.binders.length index = .error failure →
      perform react (.start index teardown) now = .error failure now ∧
        perform react (.stop index) now = .error failure now

theorem perform_start (react : Handler → Record → Attempt World Unit) (index : Raw)
    (teardown : Option Raw) (world : World) :
    perform react (.start index teardown) world =
      Attempt.answering .done (start index (teardown.any Raw.truthy) world) :=
  Attempt.answer_apply (start index (teardown.any Raw.truthy)) Reply.done world

theorem perform_stop (react : Handler → Record → Attempt World Unit) (index : Raw)
    (world : World) :
    perform react (.stop index) world = Attempt.answering .done (stop index world) :=
  Attempt.answer_apply (stop index) Reply.done world

theorem perform_publish {react : Handler → Record → Attempt World Unit} {draft : Draft}
    {record : Record} (reads : draft.read = .valid record) (now : World) :
    perform react (.publish draft) now = Attempt.answering .done
      ((now.bus.handlers record.cls).forM (fun handler => react handler record) now) := by
  have opened : perform react (.publish draft) now =
      (Attempt.ofChecked draft.read >>= fun record =>
        publish react record >>= fun _ => pure Reply.done) now := rfl
  rw [opened, reads]
  exact Attempt.answer_apply (publish react record) Reply.done now

theorem Course.settled (course : Course (new sink count program) turns now) :
    Settled (new sink count program) turns now where
  attached topic bound := by
    exact (course.wired.attached _).trans (if_pos (List.mem_map_of_mem bound))
  elsewhere cls unbound := by
    have none := course.wired.attached cls
    rw [if_neg unbound] at none
    exact List.count_eq_zero.1 none
  started place binder here := by
    rw [course.standing_of_getElem? here]
    exact Turn.bound_standing_iff
  retained binder member retains := by
    obtain ⟨topics, here⟩ := Option.ne_none_iff_exists'.1 retains
    exact (course.wired.retained binder member topics here).1
  released place binder here := by
    rw [course.standing_of_getElem? here]
    exact Turn.detachments_standing_eq_none_iff
  start_bound react index teardown place found bound := by
    rw [perform_start, start_eq_onBinder, onBinder_of_error found (Binder.start_of_bound bound)]
    rfl
  start_unbound react index teardown place found unbound := by
    have here : now.binders[place.val]? = some (now.binders.get place) :=
      List.getElem?_eq_getElem place.isLt
    obtain ⟨after, bus, started⟩ :=
      Binder.start_of_unbound (teardown.any Raw.truthy) now.bus unbound
    have performed : perform react (.start index teardown) now = .ok .done { now with
        outlet.notices := now.outlet.notices ++ [.log (.binding Topic.bound.length)]
        binders := now.binders.set place after
        bus := bus } := by
      rw [perform_start, start_eq_onBinder, onBinder_of_ok found started]
      rfl
    exact ⟨_, performed, (course.start _ here started).outlet _⟩
  stop_released react index place found released := by
    rw [perform_stop, stop_eq_onBinder, onBinder_of_error found (Binder.stop_of_released released)]
    rfl
  stop_retaining react index place found retains := by
    have here : now.binders[place.val]? = some (now.binders.get place) :=
      List.getElem?_eq_getElem place.isLt
    obtain ⟨after, bus, stopped⟩ := Binder.stop_of_retaining now.bus retains
    have performed : perform react (.stop index) now = .ok .done { now with
        outlet.notices := now.outlet.notices ++
          [.log (.unbound ((now.binders.get place).detachments.getD []).length)]
        binders := now.binders.set place after
        bus := bus } := by
      rw [perform_stop, stop_eq_onBinder, onBinder_of_ok found stopped]
      rfl
    exact ⟨_, performed, (course.stop here stopped).outlet _⟩
  missing react index teardown failure unfound := by
    rw [perform_start, perform_stop, start_eq_onBinder, stop_eq_onBinder,
      onBinder_of_missing unfound, onBinder_of_missing unfound]
    exact ⟨rfl, rfl⟩

/-- Whatever steps, probes and nested publishing lead to from rest is on a course, and each world on
it is settled, between the steps as well as between the calls of handlers and their own steps. -/
theorem every_course_is_settled (sink : Sink) (count : Nat) (program : String → List Step)
    (orderly : (new sink count program).Orderly) :
    (∀ steps, (∀ step ∈ steps, step.LeavesRouter) →
      ∀ report ∈ (new sink count program).run steps,
        ∃ turns, Course (new sink count program) turns report.after) ∧
    ∀ turns now, Course (new sink count program) turns now →
      Settled (new sink count program) turns now ∧
      (∀ depth step, step.LeavesRouter → ∃ more,
        Course (new sink count program) (turns ++ more)
          ((perform (react depth) step).after now)) ∧
      ∀ depth handler event, ∃ more,
        Course (new sink count program) (turns ++ more)
          ((react depth handler event).after now) := by
  refine ⟨fun steps leave => Course.rest.run orderly leave, fun turns now course => ?_⟩
  have onward {α : Type} {action : Attempt World α} (steady : Steady action) :
      ∃ more, Course (new sink count program) (turns ++ more) (action.after now) := by
    obtain ⟨more, next⟩ := steady now (course.orderly orderly)
    exact ⟨more, course.trans next⟩
  refine ⟨course.settled, fun depth step leaves => ?_, fun depth handler event => ?_⟩
  · exact onward (steady_perform (steady_react depth) leaves)
  · exact onward (steady_react depth handler event)

/-- A probe swaps the binders while a record is published. -/
theorem every_course_is_settled_while_probe_swaps :
    let topic : RecordClass := .notification (.saved .language)
    let program : String → List Step := fun _ =>
      [.start (.int 1) none, .stop (.int 0), .stop (.int 0)]
    let rest := new (.recorder ⟨none, false, Recorder.acceptAll, []⟩) 2 program
    let steps : List Step :=
      [.subscribe topic (.probe "swap"), .start (.int 0) (some (.bool true)),
       .publish ⟨topic, .object []⟩, .stop (.int 1)]
    rest.Orderly ∧
      (rest.run steps).map (fun report => report.after.binders.map Binder.bound) =
        [[false, false], [true, false], [false, true], [false, true]] ∧
      (rest.run steps).map (fun report => (report.after.bus.handlers topic).count .router) =
        [0, 1, 1, 1] ∧
      ∀ report ∈ rest.run steps, ∃ turns,
        Course rest turns report.after ∧ Settled rest turns report.after := by
  intro topic program rest steps
  have orderly : rest.Orderly := by
    intro name
    change ∀ step ∈ [Step.start (.int 1) none, .stop (.int 0), .stop (.int 0)], step.LeavesRouter
    simp [Step.LeavesRouter]
  have leave : ∀ step ∈ steps, step.LeavesRouter := by simp [steps, Step.LeavesRouter]
  obtain ⟨onCourse, settled⟩ := every_course_is_settled _ 2 program orderly
  refine ⟨orderly, by decide, by decide, fun report member => ?_⟩
  obtain ⟨turns, course⟩ := onCourse steps leave report member
  exact ⟨turns, course, (settled turns report.after course).1⟩

theorem report_of_ok {step : Step} {world after : World} {reply : Reply}
    (performed : perform (react reactionDepth) step world.quiet = .ok reply after) :
    world.report step = ⟨.ok reply, after.outlet.notices, after⟩ := by
  rw [report, performed]

theorem perform_of_outcome {step : Step} {reply : Reply} {world : World}
    (done : (world.report step).outcome = .ok reply) :
    perform (react reactionDepth) step world.quiet = .ok reply (world.report step).after := by
  unfold report at done ⊢
  cases performed : perform (react reactionDepth) step world.quiet with
  | error failure after =>
    rw [performed] at done
    cases done
  | ok answer after =>
    rw [performed] at done
    exact congrArg (EStateM.Result.ok · after) (Except.ok.inj done)

/-! ### One binder on its own -/

namespace Course

variable {index : Raw} {place : Fin count}

theorem report_start (course : Course (new sink count program) turns now)
    (found : Index.resolve count index = .ok place)
    (unbound : (Turn.standing turns place).bound = false) (teardown : Option Raw) :
    Course (new sink count program) (turns ++ [.started place (teardown.any Raw.truthy)])
      (now.report (.start index teardown)).after := by
  have quiet : Course (new sink count program) turns now.quiet := course.outlet _
  have known := quiet.get_binders
  obtain rfl : now.quiet.binders.length = count := by simp [quiet.binders_eq]
  have idle : (now.quiet.binders.get place).bound = false := by rw [known, unbound]
  obtain ⟨after, performed, next⟩ :=
    quiet.settled.start_unbound (react reactionDepth) index teardown place found idle
  rw [report_of_ok performed]
  exact next

theorem report_stop (course : Course (new sink count program) turns now)
    (found : Index.resolve count index = .ok place)
    (retains : (Turn.standing turns place).detachments ≠ none) :
    Course (new sink count program) (turns ++ [.stopped place])
      (now.report (.stop index)).after := by
  have quiet : Course (new sink count program) turns now.quiet := course.outlet _
  have known := quiet.get_binders
  obtain rfl : now.quiet.binders.length = count := by simp [quiet.binders_eq]
  have held : (now.quiet.binders.get place).detachments ≠ none := by rwa [known]
  obtain ⟨after, performed, next⟩ :=
    quiet.settled.stop_retaining (react reactionDepth) index place found held
  rw [report_of_ok performed]
  exact next

/-- If no other binder had a turn, only this one can be bound. -/
theorem countP_bound (course : Course (new sink count program) turns now) (place : Fin count)
    (alone : ∀ turn ∈ turns, turn.place = place) :
    now.binders.countP Binder.bound = if (Turn.standing turns place).bound then 1 else 0 := by
  have only : ∀ other ∈ List.range count,
      ((Binder.bound ∘ Turn.standing turns) other = true ↔
        (other == place.val && (Turn.standing turns place).bound) = true) := by
    intro other _
    by_cases same : other = place
    · simp [same]
    · have idle : Turn.latest? turns other = none := by
        refine List.find?_eq_none.2 fun turn member => ?_
        rw [alone turn (List.mem_reverse.1 member)]
        simpa using Ne.symm same
      simp [Turn.standing, idle, same, Binder.new]
  have once : (List.range count).countP (· == place.val) = 1 := by
    rw [← List.count, List.nodup_range.count, if_pos (List.mem_range.2 place.isLt)]
  rw [course.binders_eq, List.countP_map, List.countP_congr only]
  cases (Turn.standing turns place).bound with
  | false => simp
  | true => simpa using once

end Course

end World

end Invalidation
