import Invalidation.Proofs.World.Lifecycle

/-!
# Reactions

A handler may do anything when it is called: change the world, publish other records or the same one
again, look at how that ended, and raise. A `Reaction` is all that as a tree, and a world in which
handlers react at will is run by `World.reactWith`. The handlers of a session, which are the router
and the probes with their programs, are such handlers (`World.react_eq_reactWith`).
-/

set_option autoImplicit false

namespace Invalidation

/-- How a call or a publishing ended: with the world that it left, and with what it raised. -/
abbrev Ending := EStateM.Result Failure World Unit

namespace Ending

def outcome : Ending → Except Failure Unit
  | .ok _ _ => .ok ()
  | .error failure _ => .error failure

def left : Ending → World
  | .ok _ world | .error _ world => world

end Ending

/-- What a handler does when it is called. -/
inductive Reaction where
  /-- It returns or raises. -/
  | finish (outcome : Except Failure Unit)
  /-- It changes the world, and may go on in view of how the world was. -/
  | act (change : World → World) (next : World → Reaction)
  /-- It publishes a record, and may go on in view of how that ended, whatever was raised. -/
  | publish (event : Record) (next : Except Failure Unit → Reaction)

namespace Reaction

/-- Runs a reaction, given what publishing does. -/
def run (publish : Record → Attempt World Unit) : Reaction → Attempt World Unit
  | .finish outcome => Attempt.ofExcept outcome
  | .act change next => fun world => (next world).run publish (change world)
  | .publish event next => fun world =>
    let ended : Ending := publish event world
    (next ended.outcome).run publish ended.left

/-- An action that publishes nothing, and what follows unless it fails. -/
def ofAttempt {α : Type} (action : Attempt World α) (next : Reaction) : Reaction :=
  .act action.after fun world =>
    match action world with
    | .ok _ _ => next
    | .error failure _ => .finish (.error failure)

def ofPublish (event : Record) (next : Reaction) : Reaction :=
  .publish event fun
    | .ok () => next
    | .error failure => .finish (.error failure)

variable (publish : Record → Attempt World Unit) (next : Reaction)

theorem run_ofAttempt {α : Type} (action : Attempt World α) :
    (ofAttempt action next).run publish = action >>= fun _ => next.run publish := by
  funext world
  have opened : (ofAttempt action next).run publish world =
      (match action world with
        | .ok _ _ => next
        | .error failure _ => .finish (.error failure)).run publish (action.after world) := rfl
  rw [opened, Attempt.after, Attempt.bind_apply]
  cases action world with
  | ok value after => rfl
  | error failure after => rfl

theorem run_ofPublish (event : Record) :
    (ofPublish event next).run publish = publish event >>= fun _ => next.run publish := by
  funext world
  have opened : (ofPublish event next).run publish world =
      (match Ending.outcome (publish event world) with
        | .ok () => next
        | .error failure => .finish (.error failure)).run publish
          (Ending.left (publish event world)) := rfl
  rw [opened, Attempt.bind_apply]
  cases publish event world with
  | ok value after => rfl
  | error failure after => rfl

end Reaction

/-- A step of a probe, and what follows unless it fails. -/
def Step.reaction (next : Reaction) : Step → Reaction
  | .publish draft =>
    match draft.read with
    | .valid event => .ofPublish event next
    | .faulty first more => .finish (.error (.invalid first more))
  | step => .ofAttempt (World.perform (fun _ _ => pure ()) step) next

def Reaction.ofSteps (steps : List Step) : Reaction :=
  steps.foldr (fun step next => step.reaction next) (.finish (.ok ()))

/-- The router handles notifications, and a probe tells of the call and runs its program. -/
def Handler.reaction : Handler → Record → Reaction
  | .router, event =>
    .ofAttempt (World.notification event >>= fun event => World.onOutlet (Outlet.handle event))
      (.finish (.ok ()))
  | .probe name, event =>
    .ofAttempt (World.note (.probeCall name event.cls))
      (.act id fun world => .ofSteps (world.program name))

/-- What a handler does if calls may be nested so deep; if they may not, it is given up. -/
def Reaction.within (answers : Handler → Record → Reaction) : Nat → Handler → Record → Reaction
  | 0, _, _ => .finish (.error .tooDeep)
  | _ + 1, handler, event => answers handler event

namespace World

/-- What handlers do that react at will, for calls nested at most so deep. -/
def reactWith (answers : Handler → Record → Reaction) : Nat → Handler → Record → Attempt World Unit
  | 0, _, _ => throw .tooDeep
  | depth + 1, handler, event => (answers handler event).run (publish (reactWith answers depth))

section

variable (react other : Handler → Record → Attempt World Unit)

/-- Only a step that publishes hangs on what handlers do. -/
theorem perform_of_silent {step : Step} (silent : ∀ draft, step ≠ .publish draft) :
    perform react step = perform other step := by
  cases step with
  | publish draft => exact absurd rfl (silent draft)
  | handlerCount topic => cases topic <;> rfl
  | _ => rfl

theorem run_reaction (step : Step) (next : Reaction) :
    (step.reaction next).run (publish react) =
      perform react step >>= fun _ => next.run (publish react) := by
  -- A step that does not publish is run as if handlers did nothing, which it cannot tell.
  by_cases silent : ∀ draft, step ≠ .publish draft
  · have opened : step.reaction next = .ofAttempt (perform (fun _ _ => pure ()) step) next := by
      cases step with
      | publish draft => exact absurd rfl (silent draft)
      | _ => rfl
    rw [opened, Reaction.run_ofAttempt, perform_of_silent _ react silent]
  · obtain ⟨draft, rfl⟩ : ∃ draft, step = .publish draft := by simpa using silent
    rw [Step.reaction]
    cases reads : draft.read with
    | valid event =>
      have published (world : World) : perform react (.publish draft) world =
          Attempt.answering .done (publish react event world) := perform_publish reads world
      refine (Reaction.run_ofPublish _ _ _).trans (funext fun world => ?_)
      rw [Attempt.bind_apply, Attempt.bind_apply, published]
      cases publish react event world <;> rfl
    | faulty first more =>
      have refused : perform react (.publish draft) =
          (Attempt.ofChecked draft.read >>= fun event => publish react event >>= fun _ =>
            pure Reply.done) := rfl
      rw [refused, reads]
      rfl

theorem run_ofSteps (steps : List Step) :
    (Reaction.ofSteps steps).run (publish react) =
      steps.forM fun step => perform react step >>= fun _ => pure () := by
  induction steps with
  | nil => rfl
  | cons step rest ih =>
    have opened : Reaction.ofSteps (step :: rest) = step.reaction (.ofSteps rest) := rfl
    rw [opened, run_reaction, ih]
    funext world
    rw [Attempt.bind_apply, Attempt.forM_cons_apply, Attempt.answer_apply]
    cases perform react step world <;> rfl

end

/-- The handlers of a session are among those that react at will. -/
theorem react_eq_reactWith (depth : Nat) : react depth = reactWith Handler.reaction depth := by
  induction depth with
  | zero => rfl
  | succ depth ih =>
    funext handler event world
    rw [reactWith, ← ih]
    cases handler with
    | router =>
      rw [Handler.reaction, Reaction.run_ofAttempt]
      cases event with
      | notification event => rfl
      | _ => rfl
    | probe name =>
      rw [Handler.reaction, Reaction.run_ofAttempt]
      rw [Attempt.bind_apply]
      exact (congrFun (run_ofSteps (react depth) (world.program name)) _).symm

end World

end Invalidation
