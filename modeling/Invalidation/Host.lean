import Invalidation.Host.RootLog
import Invalidation.Session
import Invalidation.Settings
import Invalidation.Target.Redirect

/-!
# The host

A host is built from settings: a cluster of empty nodes, one binder, and nothing bound. Entering
starts the binder. Leaving stops it only if the settings ask for teardown, and ends the last
entry that succeeded, so it does nothing when there is none; without teardown the handlers stay
bound. Requests only look.

Source: `create_app`, `lifespan`, `health` and `cache_journal`. Not modelled are the serving of the
app, its pages of documentation, and requests that run side by side.
-/

set_option autoImplicit false

namespace Invalidation

structure Host where
  settings : Settings
  world : World
  /-- Whether the last entry that succeeded was not left yet. -/
  entered : Bool

inductive Page where
  | health | journal
  deriving DecidableEq, Repr

instance : Coded Page where
  all := [.health, .journal]
  code
    | .health => "/health"
    | .journal => "/cache/journal"
  find_code page := by cases page <;> rfl

/-- An answer to a request. A response without a body has none at all. -/
structure Response where
  status : Nat
  body : Option Raw

inductive HostStep where
  | enter
  | leave
  /-- A request of a target, which only looks if no method is given. -/
  | request (method : Option Raw) (target : Raw)
  | step (step : Step)

inductive HostReply where
  | reply (reply : Reply)
  | response (response : Response)

namespace Host

def title : String := "Distributed Cache Binder"

/-- The index of the one binder of a host. -/
def binderIndex : Raw := .int 0

def nodeName (index : Nat) : String := "node-" ++ toString index

/-- The host that settings describe, if its cluster can be built. -/
def assemble (settings : Settings) : Except Failure Host := do
  let nodes := (List.range settings.clusterNodes).map fun index => Node.new (nodeName index) none
  let cluster ← Cluster.new (.bool settings.batchInvalidation) (.int settings.journalSize) nodes
  return ⟨settings, World.new (.cluster cluster) 1 fun _ => [], false⟩

/-- Builds a host from settings. The log is set up first, whatever becomes of the host. -/
def new (settings : Settings) : Attempt RootLog Host := do
  RootLog.configure settings.logLevel
  Attempt.ofExcept (assemble settings)

/-- Builds a host from settings, which are loaded if none are given. A process begins by building
one with none given, on the initial root. -/
def create (about : String → Concern) (environment : Environment) :
    Option Settings → Attempt RootLog Host
  | some settings => new settings
  | none => do new (← Attempt.ofExcept (Settings.load about environment (.object [])))

def cluster? (host : Host) : Option Cluster :=
  match host.world.outlet.sink with
  | .cluster cluster => some cluster
  | .recorder _ => none

def isBound (host : Host) : Bool := host.world.binders.head?.any Binder.bound

def onWorld {α : Type} (action : Attempt World α) : Attempt Host α :=
  Attempt.onPart Host.world (fun host world => { host with world := world }) action

/-- Starts the host: binds the handlers. -/
def enter : Attempt Host Unit := do
  onWorld (World.start binderIndex (← get).settings.supportTeardown)
  modify fun host => { host with entered := true }

/-- Ends the last entry, if there is one to end. -/
def leave : Attempt Host Unit := do
  let host ← get
  if host.entered then
    modify fun host => { host with entered := false }
    if host.settings.supportTeardown then onWorld (World.stop binderIndex)

def content (host : Host) : Page → Raw
  | .health =>
    .object
      [("bound", .bool host.isBound),
       ("nodes", .int ((host.cluster?.map fun cluster => cluster.nodes.length).getD 0))]
  | .journal =>
    .list (((host.cluster?.map fun cluster => cluster.journal.commands).getD []).map Command.dump)

def detail (text : String) : Option Raw := some (.object [("detail", .text text)])

/-- The page of a path, behind which one line break does not matter. -/
def page? (path : String) : Option Page := Coded.ofCode? (Target.withoutBreak path)

def redirectStatus : Nat := 307

/-- The answer to a request before the method has had its say about the body. -/
def answer (host : Host) (method path : String) : Response :=
  match page? path with
  | some page =>
    if method = "GET" then ⟨200, some (host.content page)⟩
    else ⟨405, detail "Method Not Allowed"⟩
  | none =>
    if (page? (Target.withoutSlashes path)).isSome then ⟨redirectStatus, none⟩
    else ⟨404, detail "Not Found"⟩

/-- Answers a request. The pages only answer to being fetched, a path with slashes behind it
leads to the page without them, and a request for the head alone never gets a body. -/
def respond (host : Host) (method path : String) : Response :=
  let method := Text.upper method
  let response := host.answer method path
  if method = "HEAD" then { response with body := none } else response

/-- Whether an answer can be given to who asked: a redirect has to lead to a target. -/
def ensureUsable (target : Target) (response : Response) : Except Failure Unit :=
  match if response.status = redirectStatus then target.redirectDefect? else none with
  | some defect => .error (.badTarget defect)
  | none => .ok ()

def requested : Raw → Except Failure Target
  | .text value => (Target.read value).mapError .badTarget
  | value => .error (.targetNotText value.kind value.literal)

/-- The method of a request, which is to look if none is given. -/
def methodText : Option Raw → Except Failure String
  | none => .ok "GET"
  | some (.text value) => .ok value
  | some value => .error (.methodNotText value.kind)

def perform : HostStep → Attempt Host HostReply
  | .enter => do
    enter
    return .reply .done
  | .leave => do
    leave
    return .reply .done
  | .request method target => do
    let target ← Attempt.ofExcept (requested target)
    let method ← Attempt.ofExcept (methodText method)
    Attempt.ofExcept (target.ensureServed.mapError .badTarget)
    let response := (← get).respond method target.lookupPath
    Attempt.ofExcept (ensureUsable target response)
    return .response response
  | .step step => do
    return .reply (← onWorld (World.perform (World.react reactionDepth) step))

def quiet (host : Host) : Host := { host with world := host.world.quiet }

def report (step : HostStep) (host : Host) : Report HostReply Host :=
  match perform step host.quiet with
  | .ok reply after => ⟨.ok reply, after.world.outlet.notices, after⟩
  | .error failure after => ⟨.error failure, after.world.outlet.notices, after⟩

def run : List HostStep → Host → List (Report HostReply Host)
  | [], _ => []
  | step :: rest, host =>
    let first := host.report step
    first :: run rest first.after

end Host

end Invalidation
