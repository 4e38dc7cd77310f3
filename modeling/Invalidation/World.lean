import Invalidation.Binder
import Invalidation.Dispatch
import Invalidation.Index
import Invalidation.Node.Shown
import Invalidation.Raw.Display

/-!
# The world of a session

A session runs steps on a bus, the binders that share it, and the outlet behind the router. A
step is one request from outside; probes run steps as well, whenever they are called.

Source: `DistributedCacheBinder.start` and `stop` with what they log, `Binding`, and the methods of
`LocalCacheNode` by the index of a node.
-/

set_option autoImplicit false

namespace Invalidation

inductive BindingAction where
  | attach | detach
  deriving DecidableEq, Repr

/-- What the action does to the bus for one topic. -/
def BindingAction.run : BindingAction → Topic → Bus → Bus
  | .attach => Bus.attach
  | .detach => Bus.detach

/-- One request. Binders and nodes are named by their index; regions, keys and indexes are raw. -/
inductive Step where
  /-- Starts a binder; whether it retains its detachments hangs on the value alone, and one
  that is not given is false. -/
  | start (binder : Raw) (teardown : Option Raw)
  | stop (binder : Raw)
  | isBound (binder : Raw)
  /-- Runs an action of all bindings of a binder or of the one with the index. -/
  | bindings (binder : Raw) (action : BindingAction) (index : Option Raw)
  | publish (event : Draft)
  | route (event : Draft)
  | handle (event : Draft)
  | subscribe (topic : RecordClass) (handler : Handler)
  | unsubscribe (topic : RecordClass) (handler : Handler)
  /-- Counts the subscriptions to a topic, or all of them. -/
  | handlerCount (topic : Option RecordClass)
  | fail (text : String)
  /-- Calls the sink without the router. The argument is the key, or holds the keys. -/
  | call (method : Method) (region argument : Raw)
  | recorded
  | recordedFor (region : String)
  | clear
  | journal
  | join (node : Node)
  | nodeNames
  | broadcast (command : Raw)
  /-- Caches a value at a node; `null` is no parent. -/
  | put (node region key value parent : Raw)
  | get (node region key : Raw)
  | keys (node region : Raw)
  | apply (node command : Raw)
  | setOutage (node : Raw) (operations : List Operation)

inductive Reply where
  | done
  | flag (value : Bool)
  | count (value : Nat)
  | commands (values : List Command)
  | names (values : List String)
  | keys (values : List Raw)
  | value (value : Raw)

structure World where
  bus : Bus
  binders : List Binder
  outlet : Outlet
  /-- The steps that each probe runs when it is called. -/
  program : String → List Step

namespace World

/-- A world at rest, with so many binders, none of which was started. -/
def new (sink : Sink) (binders : Nat) (program : String → List Step) : World :=
  ⟨.empty, List.replicate binders .new, ⟨sink, []⟩, program⟩

/-- How many a value counts; a negative one counts none. -/
def count (raw : Raw) : Except Failure Nat := (raw.integer?.map Int.toNat).mapError .notCount

def onOutlet {α : Type} (action : Attempt Outlet α) : Attempt World α :=
  Attempt.onPart World.outlet (fun world outlet => { world with outlet := outlet }) action

def note (notice : Notice) : Attempt World Unit := onOutlet (Outlet.note notice)

def modifyBus (change : Bus → Bus) : Attempt World Unit :=
  modify fun world => { world with bus := change world.bus }

/-- The binder with the index, and its place. -/
def binder (index : Raw) : Attempt World (Nat × Binder) := do
  let binders := (← get).binders
  let place ← Attempt.ofExcept (Index.resolve binders.length index)
  return (place, binders[place])

def keep (place : Nat) (binder : Binder) (bus : Bus) : Attempt World Unit :=
  modify fun world => { world with binders := world.binders.set place binder, bus := bus }

def start (index : Raw) (teardown : Bool) : Attempt World Unit := do
  let (place, before) ← binder index
  let (after, bus) ← Attempt.ofExcept (before.start teardown (← get).bus)
  note (.log (.binding Topic.bound.length))
  keep place after bus

def stop (index : Raw) : Attempt World Unit := do
  let (place, before) ← binder index
  let (after, bus) ← Attempt.ofExcept (before.stop (← get).bus)
  keep place after bus
  note (.log (.unbound (before.detachments.getD []).length))

def boundTopics (index : Option Raw) : Attempt World (List Topic) :=
  match index with
  | none => return Topic.bound
  | some index => do
    return [Topic.bound[← Attempt.ofExcept (Index.resolve Topic.bound.length index)]]

/-- Runs the action of the bindings that are meant, in the order of their topics. -/
def runBindings (action : BindingAction) (index : Option Raw) : Attempt World Unit := do
  let topics ← boundTopics index
  modifyBus fun bus => topics.foldl (fun bus topic => action.run topic bus) bus

/-- The notification among the records; only that can be routed. -/
def notification : Record → Attempt World Notification
  | .notification event => return event
  | record => throw (.notNotification record.cls)

/-- The recorder behind the router, for an action that only recorders offer. -/
def recorder (action : SinkAction) : Attempt World Recorder := do
  match (← get).outlet.sink with
  | .recorder recorder => return recorder
  | sink => throw (.unsupported sink.kind action)

/-- The cluster behind the router, for an action that only clusters offer. -/
def cluster (action : SinkAction) : Attempt World Cluster := do
  match (← get).outlet.sink with
  | .cluster cluster => return cluster
  | sink => throw (.unsupported sink.kind action)

def setSink (sink : Sink) : Attempt World Unit :=
  onOutlet (modify fun outlet => { outlet with sink := sink })

/-- The node with the index, and its place. -/
def node (index : Raw) : Attempt World (Nat × Node) := do
  let nodes := (← cluster .nodes).nodes
  let place ← Attempt.ofExcept (Index.resolve nodes.length index)
  return (place, nodes[place])

def keepNode (place : Nat) (node : Node) : Attempt World Unit := do
  let cluster ← cluster .nodes
  setSink (.cluster { cluster with nodes := cluster.nodes.set place node })

def region (raw : Raw) : Attempt World Region :=
  match (Reading.word raw : Checked Region) with
  | .valid region => return region
  | .faulty _ _ => throw (.notRegion raw.literal)

def key (raw : Raw) : Attempt World Key :=
  Attempt.ofExcept (raw.key?.mapError fun found => .misfit (.noKey found))

def put (index regionName spelling value parent : Raw) : Attempt World Unit := do
  let (place, target) ← node index
  let region ← region regionName
  let key ← key spelling
  keepNode place (target.put region key spelling value parent.parent?)

def cached (index regionName spelling : Raw) : Attempt World Raw := do
  let (_, target) ← node index
  let region ← region regionName
  return (target.get? region (← key spelling)).getD .null

/-- The keys that a node caches of a region, in the order in which they are shown. -/
def cachedKeys (index regionName : Raw) : Attempt World (List Raw) := do
  let (_, target) ← node index
  let region ← region regionName
  Attempt.ofExcept ((target.shownKeys region).mapError fun (left, right) => .unordered left right)

/-- Carries out a command on a single node, if the node does. -/
def applyOn (index raw : Raw) : Attempt World Unit := do
  let (place, target) ← node index
  let command ← Attempt.ofChecked (Command.read raw)
  match target.failure? command with
  | some failure => throw failure
  | none => keepNode place (target.apply command)

end World

end Invalidation
