import Invalidation.Collection
import Invalidation.Record.Dump
import Invalidation.Record.Reading

/-!
# Calls to a sink

A sink takes calls of six methods, whose arguments are raw: the command that a call stands for
is read from them, so a call with a wrong region or key stands for none. In the other direction
`Command.call?` chooses the one call that carries a command out.

Source: the `DistributedCache` protocol, and the choice of its method in
`NotificationRouter._dispatch`.
-/

set_option autoImplicit false

namespace Invalidation

inductive Method where
  | refresh | remove | refreshBranch | refreshAll | refreshMany | removeMany
  deriving DecidableEq, Repr

instance : Coded Method where
  all := [.refresh, .remove, .refreshBranch, .refreshAll, .refreshMany, .removeMany]
  code
    | .refresh => "refresh"
    | .remove => "remove"
    | .refreshBranch => "refresh_branch"
    | .refreshAll => "refresh_all"
    | .refreshMany => "refresh_many"
    | .removeMany => "remove_many"
  find_code method := by cases method <;> rfl

def Method.operation : Method → Operation
  | .refresh | .refreshMany => .refresh
  | .remove | .removeMany => .remove
  | .refreshBranch => .refreshBranch
  | .refreshAll => .refreshAll

inductive Call where
  | refresh (region key : Raw)
  | remove (region key : Raw)
  | refreshBranch (region key : Raw)
  | refreshAll (region : Raw)
  | refreshMany (region : Raw) (keys : Collection)
  | removeMany (region : Raw) (keys : Collection)
  deriving Repr

namespace Call

def method : Call → Method
  | refresh _ _ => .refresh
  | remove _ _ => .remove
  | refreshBranch _ _ => .refreshBranch
  | refreshAll _ => .refreshAll
  | refreshMany _ _ => .refreshMany
  | removeMany _ _ => .removeMany

def region : Call → Raw
  | refresh region _ | remove region _ | refreshBranch region _ | refreshAll region
  | refreshMany region _ | removeMany region _ => region

/-- The call of a method with a region and one more value: the key, or for a method that takes many
keys a collection of them. -/
def ofArguments (method : Method) (region argument : Raw) : Except RawKind Call :=
  match method with
  | .refresh => .ok (.refresh region argument)
  | .remove => .ok (.remove region argument)
  | .refreshBranch => .ok (.refreshBranch region argument)
  | .refreshAll => .ok (.refreshAll region)
  | .refreshMany => argument.collection?.map (.refreshMany region)
  | .removeMany => argument.collection?.map (.removeMany region)

def named : Call → Collection
  | refresh _ key | remove _ key | refreshBranch _ key => .list [key]
  | refreshAll _ => .list []
  | refreshMany _ keys | removeMany _ keys => keys

def keys (call : Call) : List Raw := call.named.members

/-- The command that a call stands for, or the faults of its arguments. -/
def read (call : Call) : Checked Command :=
  Command.read <| .object
    [("region", call.region), ("operation", .ofWord call.method.operation),
     ("keys", .list call.keys)]

end Call

/-- The call that carries out a command: the method for many keys when it names more than one,
and the method for a single key otherwise. A command without keys that is not for a whole
region has no call. -/
def Command.call? (command : Command) : Option Call :=
  let region := Raw.ofWord command.region
  match command.operation, command.keys with
  | .refreshAll, _ => some (.refreshAll region)
  | .refreshBranch, key :: _ => some (.refreshBranch region (.int key))
  | .refresh, [key] => some (.refresh region (.int key))
  | .refresh, key :: rest => some (.refreshMany region (.list ((key :: rest).map .int)))
  | .remove, [key] => some (.remove region (.int key))
  | .remove, key :: rest => some (.removeMany region (.list ((key :: rest).map .int)))
  | _, [] => none

end Invalidation
