import Invalidation.Failure

/-!
# Notices

What can be observed while an action runs: calls to a watched sink, calls of probes, and log
entries. A log entry keeps the data it tells of; `LogEntry.message` writes it out.

Source: what `NotificationRouter.handle`, `ClusterMessenger.broadcast` and `DistributedCacheBinder`
log. Times and the layout of lines are not modelled.
-/

set_option autoImplicit false

namespace Invalidation

inductive LogEntry where
  | routing (topic : Topic) (kind : Kind) (commands : Nat)
  /-- A command goes to so many nodes. -/
  | broadcasting (command : Command) (nodes : Nat)
  /-- So many handlers are about to be bound. -/
  | binding (handlers : Nat)
  /-- So many handlers were unbound. -/
  | unbound (handlers : Nat)
  deriving DecidableEq, Repr

inductive Channel where
  | router | cluster | binder
  deriving DecidableEq, Repr

inductive Level where
  | debug | info
  deriving DecidableEq, Repr

namespace LogEntry

def channel : LogEntry → Channel
  | routing _ _ _ => .router
  | broadcasting _ _ => .cluster
  | binding _ | unbound _ => .binder

def level : LogEntry → Level
  | routing _ _ _ | broadcasting _ _ => .debug
  | binding _ | unbound _ => .info

/-- Keys in brackets, separated by a comma and a blank. -/
def keysText (keys : List Int) : String :=
  "[" ++ ", ".intercalate (keys.map toString) ++ "]"

def message : LogEntry → String
  | routing topic kind commands =>
    "Routing " ++ topic.name ++ "(" ++ code kind ++ ") to " ++ toString commands ++
      " cache command(s)"
  | broadcasting command nodes =>
    "Broadcasting " ++ code command.operation ++ " " ++ code command.region ++ " " ++
      keysText command.keys ++ " to " ++ toString nodes ++ " node(s)"
  | binding handlers =>
    "Binding " ++ toString handlers ++ " notification handlers for cache refreshing"
  | unbound handlers => "Unbound " ++ toString handlers ++ " cache refresh handlers"

end LogEntry

inductive Notice where
  | sinkCall (call : Call)
  /-- A probe was called with a record of the class. -/
  | probeCall (probe : String) (event : RecordClass)
  | log (entry : LogEntry)
  deriving Repr

end Invalidation
