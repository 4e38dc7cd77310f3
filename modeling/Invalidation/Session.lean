import Invalidation.World

/-!
# Running a session

Publishing a record calls the handlers that its class has at that moment, in order, up to the
first that fails; what they subscribe or unsubscribe counts from the next publishing on. Probes
are handlers that run steps, among them further publishing, so `react` counts how deep calls
are nested and gives up at its bound.

Source: `EventBus.publish`, with `NotificationRouter.handle` and probes as handlers. Threads are not
modelled: steps come one after another.
-/

set_option autoImplicit false

namespace Invalidation

namespace World

/-- Calls the handlers of a record in order, as they are when the publishing begins. -/
def publish (react : Handler → Record → Attempt World Unit) (event : Record) :
    Attempt World Unit := do
  ((← get).bus.handlers event.cls).forM fun handler => react handler event

/-- Runs one step, given what handlers do. -/
def perform (react : Handler → Record → Attempt World Unit) : Step → Attempt World Reply
  | .start index teardown => do
    start index (teardown.any Raw.truthy)
    return .done
  | .stop index => do
    stop index
    return .done
  | .isBound index => do
    return .flag (← binder index).2.bound
  | .bindings index action which => do
    let _ ← binder index
    runBindings action which
    return .count Topic.bound.length
  | .publish event => do
    publish react (← Attempt.ofChecked event.read)
    return .done
  | .route event => do
    let event ← notification (← Attempt.ofChecked event.read)
    return .commands (← onOutlet (Outlet.route event))
  | .handle event => do
    let event ← notification (← Attempt.ofChecked event.read)
    return .commands (← onOutlet (Outlet.handle event))
  | .subscribe topic handler => do
    modifyBus (Bus.subscribe topic handler)
    return .done
  | .unsubscribe topic handler => do
    modifyBus (Bus.unsubscribe topic handler)
    return .done
  | .handlerCount none => do
    return .count (← get).bus.size
  | .handlerCount (some topic) => do
    return .count ((← get).bus.handlers topic).length
  | .fail text => throw (.raised text)
  | .call method region argument => do
    onOutlet (Outlet.take (← Attempt.ofExcept
      ((Call.ofArguments method region argument).mapError .noMembers)))
    return .done
  | .recorded => do
    return .commands (← recorder .recorded).commands
  | .recordedFor region => do
    return .commands ((← recorder .recordedFor).forRegion region)
  | .clear => do
    setSink (.recorder (← recorder .clear).clear)
    return .done
  | .journal => do
    return .commands (← cluster .journal).journal.commands
  | .join node => do
    setSink (.cluster ((← cluster .join).join node))
    return .done
  | .nodeNames => do
    return .names ((← cluster .nodes).nodes.map Node.name)
  | .broadcast raw => do
    let _ ← cluster .broadcast
    let command ← Attempt.ofChecked (Command.read raw)
    onOutlet (Outlet.broadcast command)
    return .done
  | .put index region key value parent => do
    put index region key value parent
    return .done
  | .get index region key => do
    return .value (← cached index region key)
  | .keys index region => do
    return .keys (← cachedKeys index region)
  | .apply index raw => do
    applyOn index raw
    return .done
  | .setOutage index operations => do
    let (place, target) ← node index
    keepNode place (target.setOutage operations)
    return .done

/-- What a handler does with a record, for calls nested at most so deep: the router handles
notifications, and a probe tells of the call and runs its program. -/
def react : Nat → Handler → Record → Attempt World Unit
  | 0, _, _ => throw .tooDeep
  | _ + 1, .router, event => do
    let event ← notification event
    let _ ← onOutlet (Outlet.handle event)
  | depth + 1, .probe name, event => do
    note (.probeCall name event.cls)
    ((← get).program name).forM fun step => do
      let _ ← perform (react depth) step

end World

def reactionDepth : Nat := 1000

/-- What one step led to: its answer or failure, what was noticed meanwhile, and the world
after it. -/
structure Report (α ω : Type) where
  outcome : Except Failure α
  notices : List Notice
  after : ω

namespace World

def quiet (world : World) : World :=
  { world with outlet := { world.outlet with notices := [] } }

/-- Runs one step on its own. A step that fails keeps what it did before. -/
def report (step : Step) (world : World) : Report Reply World :=
  match perform (react reactionDepth) step world.quiet with
  | .ok reply after => ⟨.ok reply, after.outlet.notices, after⟩
  | .error failure after => ⟨.error failure, after.outlet.notices, after⟩

def run : List Step → World → List (Report Reply World)
  | [], _ => []
  | step :: rest, world =>
    let first := world.report step
    first :: run rest first.after

end World

end Invalidation
