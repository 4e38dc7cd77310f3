import Invalidation.Failure

/-!
# Recorders

A recorder is a sink that only keeps the commands it is given. It may be watched, and then
tells of every call; and it may refuse calls, which it then does not record.

Source: `RecordingDistributedCache`; a watched recorder stands for a spy.
-/

set_option autoImplicit false

namespace Invalidation

structure Recorder where
  /-- Tells callers whether they may send commands with many keys, if it says so at all. -/
  acceptsBatches : Option Raw
  watched : Bool
  refuses : Call → Except Misfit Bool
  commands : List Command

namespace Recorder

def acceptAll (_call : Call) : Except Misfit Bool := .ok false

/-- Refuses calls of the method, or only those of them that name the key. It is looked for among the
keys as they were handed over. -/
def refusing (method : Method) (key : Option Raw) (call : Call) : Except Misfit Bool :=
  if call.method == method then
    match key with
    | some wanted => call.named.contains wanted
    | none => .ok true
  else .ok false

def record (command : Command) (recorder : Recorder) : Recorder :=
  { recorder with commands := recorder.commands ++ [command] }

/-- The recorded commands for the region with the given code, which need not exist. -/
def forRegion (region : String) (recorder : Recorder) : List Command :=
  recorder.commands.filter fun command => code command.region == region

def clear (recorder : Recorder) : Recorder := { recorder with commands := [] }

end Recorder

end Invalidation
