import Invalidation.Proofs.World.Reaction

/-!
# Publishing on a snapshot

Handlers may change who is subscribed and publish again while they are called. What took place is a
tree: a `Frame` for every publishing, in it a `Visit` for every call that it made, and in that a
frame again for every record that the handler published. Every frame calls the handlers that its
class had when it began, and it began in the world that everything before it left
(`World.every_publishing_calls_its_snapshot`).
-/

set_option autoImplicit false

namespace Invalidation

/-- A call of a handler, and what it published meanwhile, one after another. -/
structure Visit (φ : Type) where
  handler : Handler
  begun : World
  inner : List φ
  ending : Ending

/-- A publishing, and the calls that it made, one after another. -/
structure Frame where
  /-- How deep calls could still be nested. -/
  depth : Nat
  event : Record
  begun : World
  visits : List (Visit Frame)
  ending : Ending

/-! ### What is said of a tree -/

/-- Calls one after another, up to and including the first that raises. -/
inductive Visit.Chain : World → List (Visit Frame) → Ending → Prop where
  | done (world : World) : Chain world [] (.ok () world)
  | next {visit : Visit Frame} {world : World} {visits : List (Visit Frame)} {ending : Ending}
      (returned : visit.ending = .ok () world) (onward : Chain world visits ending) :
      Chain visit.begun (visit :: visits) ending
  | raised {visit : Visit Frame} {failure : Failure} {world : World}
      (raised : visit.ending = .error failure world) :
      Chain visit.begun [visit] (.error failure world)

/-- What a reaction publishes, one after another, each in the world at that moment. What was changed
before something was raised is kept, so the next publishing begins with it. -/
inductive Reaction.Publishes (depth : Nat) : Reaction → World → List Frame → Ending → Prop where
  | finish (outcome : Except Failure Unit) (world : World) :
      Publishes depth (.finish outcome) world [] (Attempt.ofExcept outcome world)
  | act {change : World → World} {next : World → Reaction} {world : World} {frames : List Frame}
      {ending : Ending} (onward : Publishes depth (next world) (change world) frames ending) :
      Publishes depth (.act change next) world frames ending
  | publish {frame : Frame} {next : Except Failure Unit → Reaction} {frames : List Frame}
      {ending : Ending} (deep : frame.depth = depth)
      (onward : Publishes depth (next frame.ending.outcome) frame.ending.left frames ending) :
      Publishes depth (.publish frame.event next) frame.begun (frame :: frames) ending

namespace Frame

/-- A publishing took place during another, or is that one. -/
inductive Within (whole : Frame) : Frame → Prop where
  | whole : Within whole whole
  | inner {frame inner : Frame} {visit : Visit Frame} (outer : Within whole frame)
      (visited : visit ∈ frame.visits) (published : inner ∈ visit.inner) : Within whole inner

/-- A publishing works on a snapshot. -/
structure Snapshot (answers : Handler → Record → Reaction) (frame : Frame) : Prop where
  /-- It is what publishing comes to if handlers react in this way. -/
  published : World.publish (World.reactWith answers frame.depth) frame.event frame.begun =
    frame.ending
  /-- It calls the handlers that its class had when it began, each at its turn. -/
  served : frame.visits.map Visit.handler <+: frame.begun.bus.handlers frame.event.cls
  /-- It calls all of them unless it raises. -/
  complete : frame.ending.outcome = .ok () →
    frame.visits.map Visit.handler = frame.begun.bus.handlers frame.event.cls
  /-- It ends with the first call that raises, just as that ended. -/
  chained : Visit.Chain frame.begun frame.visits frame.ending
  /-- Each call is what the handler does in the world at that moment. -/
  called : ∀ visit ∈ frame.visits,
    World.reactWith answers frame.depth visit.handler frame.event visit.begun = visit.ending
  /-- What it publishes meanwhile begins in the world at that moment. -/
  nested : ∀ visit ∈ frame.visits,
    (Reaction.within answers frame.depth visit.handler frame.event).Publishes (frame.depth - 1)
      visit.begun visit.inner visit.ending

end Frame

/-! ### The tree of a publishing -/

/-- What a reaction publishes and how it ends, given what comes of publishing. -/
def Reaction.trace (publish : Record → World → Frame) : Reaction → World → List Frame × Ending
  | .finish outcome, world => ([], Attempt.ofExcept outcome world)
  | .act change next, world => (next world).trace publish (change world)
  | .publish event next, world =>
    let frame := publish event world
    let later := (next frame.ending.outcome).trace publish frame.ending.left
    (frame :: later.1, later.2)

/-- The calls of handlers and how they end, given what comes of a call. -/
def Visit.trace (visit : Handler → World → Visit Frame) :
    List Handler → World → List (Visit Frame) × Ending
  | [], world => ([], .ok () world)
  | handler :: rest, world =>
    let first := visit handler world
    match first.ending with
    | .error failure left => ([first], .error failure left)
    | .ok () left =>
      let later := trace visit rest left
      (first :: later.1, later.2)

/-- The publishing of a record, given what comes of a call. -/
def Frame.trace (depth : Nat) (visit : Record → Handler → World → Visit Frame) (event : Record)
    (world : World) : Frame :=
  let made := Visit.trace (visit event) (world.bus.handlers event.cls) world
  ⟨depth, event, world, made.1, made.2⟩

namespace World

def visiting (answers : Handler → Record → Reaction) :
    Nat → Record → Handler → World → Visit Frame
  | 0, _, handler, world => ⟨handler, world, [], .error .tooDeep world⟩
  | depth + 1, event, handler, world =>
    -- What the handler publishes is a level deeper, so the recursion is on the levels left.
    let made := (answers handler event).trace (Frame.trace depth (visiting answers depth)) world
    ⟨handler, world, made.1, made.2⟩

def publishing (answers : Handler → Record → Reaction) (depth : Nat) : Record → World → Frame :=
  Frame.trace depth (visiting answers depth)

end World

/-! ### The tree is as it is said to be -/

namespace Reaction

variable {publish : Record → World → Frame}

theorem run_eq_trace {act : Record → Attempt World Unit}
    (ends : ∀ event world, act event world = (publish event world).ending) (reaction : Reaction)
    (world : World) : reaction.run act world = (reaction.trace publish world).2 := by
  induction reaction generalizing world with
  | finish outcome => rfl
  | act change next ih => exact ih world (change world)
  | publish event next ih =>
    have opened : (Reaction.publish event next).run act world =
        (next (Ending.outcome (act event world))).run act (Ending.left (act event world)) := rfl
    rw [opened, ends, ih]
    rfl

theorem publishes_trace {depth : Nat}
    (begins : ∀ event world, (publish event world).depth = depth ∧
      (publish event world).event = event ∧ (publish event world).begun = world)
    (reaction : Reaction) (world : World) :
    reaction.Publishes depth world (reaction.trace publish world).1
      (reaction.trace publish world).2 := by
  induction reaction generalizing world with
  | finish outcome => exact .finish outcome world
  | act change next ih => exact .act (ih world (change world))
  | publish event next ih =>
    obtain ⟨deep, same, here⟩ := begins event world
    have onward := Publishes.publish deep (ih (publish event world).ending.outcome
      (publish event world).ending.left)
    rw [same, here] at onward
    exact onward

theorem exists_of_mem_trace {reaction : Reaction} {world : World} {frame : Frame}
    (member : frame ∈ (reaction.trace publish world).1) :
    ∃ event begun, frame = publish event begun := by
  induction reaction generalizing world with
  | finish outcome => cases member
  | act change next ih => exact ih world member
  | publish event next ih =>
    rcases List.mem_cons.1 member with rfl | later
    · exact ⟨event, world, rfl⟩
    · exact ih _ later

end Reaction

namespace Visit

variable {visit : Handler → World → Visit Frame}

theorem trace_cons (handler : Handler) (rest : List Handler) (world : World) :
    trace visit (handler :: rest) world =
      match (visit handler world).ending with
      | .error failure left => ([visit handler world], .error failure left)
      | .ok () left =>
        (visit handler world :: (trace visit rest left).1, (trace visit rest left).2) := rfl

theorem forM_eq_trace {act : Handler → Attempt World Unit}
    (ends : ∀ handler world, act handler world = (visit handler world).ending)
    (handlers : List Handler) (world : World) :
    handlers.forM act world = (trace visit handlers world).2 := by
  induction handlers generalizing world with
  | nil => rfl
  | cons handler rest ih =>
    rw [Attempt.forM_cons_apply, trace_cons, ends]
    cases (visit handler world).ending with
    | error failure left => rfl
    | ok value left => exact ih left

theorem handlers_trace (same : ∀ handler world, (visit handler world).handler = handler)
    (handlers : List Handler) (world : World) :
    (trace visit handlers world).1.map Visit.handler <+: handlers ∧
      ((trace visit handlers world).2.outcome = .ok () →
        (trace visit handlers world).1.map Visit.handler = handlers) := by
  induction handlers generalizing world with
  | nil => exact ⟨List.prefix_rfl, fun _ => rfl⟩
  | cons handler rest ih =>
    rw [trace_cons]
    cases (visit handler world).ending with
    | error failure left => exact ⟨by simp [same], nofun⟩
    | ok value left =>
      obtain ⟨served, complete⟩ := ih left
      simp only [List.map_cons, same, List.cons_prefix_cons, List.cons.injEq, true_and]
      exact ⟨served, complete⟩

theorem chain_trace (begins : ∀ handler world, (visit handler world).begun = world)
    (handlers : List Handler) (world : World) :
    Chain world (trace visit handlers world).1 (trace visit handlers world).2 := by
  induction handlers generalizing world with
  | nil => exact .done world
  | cons handler rest ih =>
    rw [trace_cons]
    have here := begins handler world
    cases ended : (visit handler world).ending with
    | error failure left =>
      have stopped := Chain.raised ended
      rwa [here] at stopped
    | ok value left =>
      have onward := Chain.next ended (ih left)
      rwa [here] at onward

theorem exists_of_mem_trace {handlers : List Handler} {world : World} {made : Visit Frame}
    (member : made ∈ (trace visit handlers world).1) :
    ∃ handler begun, made = visit handler begun := by
  induction handlers generalizing world with
  | nil => cases member
  | cons handler rest ih =>
    rw [trace_cons] at member
    cases ended : (visit handler world).ending with
    | error failure left =>
      rw [ended] at member
      exact ⟨handler, world, List.mem_singleton.1 member⟩
    | ok value left =>
      rw [ended] at member
      rcases List.mem_cons.1 member with rfl | later
      · exact ⟨handler, world, rfl⟩
      · exact ih later

end Visit

namespace World

variable (answers : Handler → Record → Reaction)

theorem visiting_handler (depth : Nat) (event : Record) (handler : Handler) (world : World) :
    (visiting answers depth event handler world).handler = handler := by
  cases depth <;> rfl

theorem visiting_begun (depth : Nat) (event : Record) (handler : Handler) (world : World) :
    (visiting answers depth event handler world).begun = world := by
  cases depth <;> rfl

theorem publish_eq_publishing {depth : Nat}
    (ends : ∀ handler event world, reactWith answers depth handler event world =
      (visiting answers depth event handler world).ending) (event : Record) (world : World) :
    publish (reactWith answers depth) event world =
      (publishing answers depth event world).ending := by
  exact Visit.forM_eq_trace (fun handler world => ends handler event world) _ world

theorem reactWith_eq_visiting (depth : Nat) (handler : Handler) (event : Record) (world : World) :
    reactWith answers depth handler event world =
      (visiting answers depth event handler world).ending := by
  induction depth generalizing handler event world with
  | zero => rfl
  | succ depth ih =>
    exact Reaction.run_eq_trace (publish_eq_publishing answers ih) (answers handler event) world

theorem publishes_visiting (depth : Nat) (event : Record) (handler : Handler) (world : World) :
    (Reaction.within answers depth handler event).Publishes (depth - 1) world
      (visiting answers depth event handler world).inner
      (visiting answers depth event handler world).ending := by
  cases depth with
  | zero => exact .finish _ world
  | succ depth =>
    have begins : ∀ event world, (publishing answers depth event world).depth = depth ∧
        (publishing answers depth event world).event = event ∧
        (publishing answers depth event world).begun = world := fun _ _ => ⟨rfl, rfl, rfl⟩
    exact Reaction.publishes_trace begins (answers handler event) world

theorem snapshot_publishing (depth : Nat) (event : Record) (world : World) :
    (publishing answers depth event world).Snapshot answers where
  published := publish_eq_publishing answers (reactWith_eq_visiting answers depth) event world
  served := (Visit.handlers_trace (visiting_handler answers depth event) _ world).1
  complete := (Visit.handlers_trace (visiting_handler answers depth event) _ world).2
  chained := Visit.chain_trace (visiting_begun answers depth event) _ world
  called made member := by
    obtain ⟨handler, begun, rfl⟩ := Visit.exists_of_mem_trace member
    rw [visiting_handler, visiting_begun]
    exact reactWith_eq_visiting answers depth handler event begun
  nested made member := by
    obtain ⟨handler, begun, rfl⟩ := Visit.exists_of_mem_trace member
    rw [visiting_handler, visiting_begun]
    exact publishes_visiting answers depth event handler begun

/-- What is published during a publishing is a publishing itself. -/
theorem exists_of_within {depth : Nat} {event : Record} {world : World} {frame : Frame}
    (within : (publishing answers depth event world).Within frame) :
    ∃ depth event world, frame = publishing answers depth event world := by
  induction within with
  | whole => exact ⟨depth, event, world, rfl⟩
  | inner outer visited published ih =>
    -- From a frame down to one of its visits, and from there down to a frame of that visit.
    obtain ⟨depth, event, world, rfl⟩ := ih
    obtain ⟨handler, begun, rfl⟩ := Visit.exists_of_mem_trace visited
    cases depth with
    | zero => cases published
    | succ depth =>
      obtain ⟨event, begun, rfl⟩ := Reaction.exists_of_mem_trace published
      exact ⟨depth, event, begun, rfl⟩

theorem perform_publish_eq_publishing {draft : Draft} {event : Record}
    (reads : draft.read = .valid event) (depth : Nat) (world : World) :
    perform (react depth) (.publish draft) world =
      Attempt.answering .done (publishing Handler.reaction depth event world).ending := by
  rw [react_eq_reactWith]
  exact (perform_publish reads world).trans
    (congrArg _ (snapshot_publishing Handler.reaction depth event world).published)

/-- However handlers react, every publishing that takes place calls the handlers that its class had
when it began, up to the first that raises. In a session it begins in the world that all steps
before it left. -/
theorem every_publishing_calls_its_snapshot :
    (∀ answers depth event world,
      let whole := publishing answers depth event world
      (whole.depth = depth ∧ whole.event = event ∧ whole.begun = world) ∧
      ∀ frame, whole.Within frame → frame.Snapshot answers) ∧
    (∀ depth, react depth = reactWith Handler.reaction depth) ∧
    ∀ (world : World) (steps : List Step) (draft : Draft) (event : Record),
      draft.read = .valid event →
      let now := world.afterAll steps
      let told := now.report (.publish draft)
      let whole := publishing Handler.reaction reactionDepth event now.quiet
      world.run (steps ++ [.publish draft]) = world.run steps ++ [told] ∧
      told.outcome = whole.ending.outcome.map (fun _ => .done) ∧
      told.after = whole.ending.left := by
  refine ⟨fun answers depth event world => ⟨⟨rfl, rfl, rfl⟩, fun frame within => ?_⟩,
    react_eq_reactWith, fun world steps draft event reads => ?_⟩
  · obtain ⟨depth, event, world, rfl⟩ := exists_of_within answers within
    exact snapshot_publishing answers depth event world
  · intro now told whole
    refine ⟨run_append_singleton steps (.publish draft) world, ?_⟩
    have performed : perform (react reactionDepth) (.publish draft) now.quiet =
        Attempt.answering .done whole.ending :=
      perform_publish_eq_publishing reads reactionDepth now.quiet
    simp only [told, report, performed]
    cases whole.ending with
    | ok value after => exact ⟨rfl, rfl⟩
    | error failure after => exact ⟨rfl, rfl⟩

/-- A probe leaves, brings in another, publishes the record again and fails. -/
theorem every_publishing_calls_its_snapshot_while_probe_leaves :
    let topic : RecordClass := .notification (.saved .language)
    let draft : Draft := ⟨topic, .object [("entities", .list [.object [("id", .int 7)]])]⟩
    let event : Record := .notification
      { topic := .saved .language
        kind := .item .language
        payload := .entities [⟨7⟩]
        admitted := fun _ pinned => Option.some.inj pinned }
    let program : String → List Step := fun name =>
      if name = "leaving" then
        [.unsubscribe topic (.probe "leaving"), .subscribe topic (.probe "late"), .publish draft,
         .fail "gone"]
      else []
    let steps : List Step :=
      [.subscribe topic (.probe "leaving"), .subscribe topic (.probe "second")]
    let now := (new (.recorder ⟨none, false, Recorder.acceptAll, []⟩) 1 program).afterAll steps
    let whole := publishing Handler.reaction reactionDepth event now.quiet
    draft.read = .valid event ∧
      whole.visits.map Visit.handler = [.probe "leaving"] ∧
      (whole.visits.flatMap Visit.inner).map (fun frame => frame.visits.map Visit.handler) =
        [[.probe "second", .probe "late"]] ∧
      (∀ frame, whole.Within frame → frame.Snapshot Handler.reaction) ∧
      (now.report (.publish draft)).outcome = .error (.raised "gone") ∧
      (now.report (.publish draft)).after.bus.handlers topic =
        [.probe "second", .probe "late"] := by
  intro topic draft event program steps now whole
  obtain ⟨snapshots, -, sessions⟩ := every_publishing_calls_its_snapshot
  have reads : draft.read = .valid event := by decide
  obtain ⟨-, outcome, after⟩ := sessions (new _ 1 program) steps draft event reads
  refine ⟨reads, by decide, by decide, (snapshots _ _ _ _).2, ?_, ?_⟩
  · exact outcome.trans rfl
  · exact (congrArg (fun world : World => world.bus.handlers topic) after).trans (by decide)

end World

end Invalidation
