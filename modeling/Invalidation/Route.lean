import Invalidation.Failure

/-!
# Routes

A route leads from a change of a kind of entity to the cache region that depends on it. It
says which operation answers the change and how the payload is turned into commands.
`Notification.commands` is the routing law: a notification without a route fails, whatever its
payload, and otherwise its payload is expanded in order.

Source: `ROUTES`, `RouteShape`, `NotificationRouter.route` and `NotificationRouter._per_entity`.
-/

set_option autoImplicit false

namespace Invalidation

/-- How a payload is turned into commands. -/
inductive Shape where
  | perEntity
  /-- One command for all entities, if the sink takes batches, and else one for each. -/
  | batch
  | region
  | tree
  | schema
  deriving DecidableEq, Repr

instance : Coded Shape where
  all := [.perEntity, .batch, .region, .tree, .schema]
  code
    | .perEntity => "per_entity"
    | .batch => "batch"
    | .region => "region"
    | .tree => "tree"
    | .schema => "structure"
  find_code shape := by cases shape <;> rfl

structure Route where
  region : Region
  operation : Operation
  shape : Shape
  deriving DecidableEq, Repr

def ItemKind.region : ItemKind → Region
  | .dataType => .dataType
  | .dictionaryItem => .dictionary
  | .domain => .domain
  | .language => .language
  | .member => .member
  | .memberGroup => .memberGroup
  | .publicAccessEntry => .publicAccess
  | .user => .user
  | .userGroup => .userGroup
  | .macroItem => .macroItem
  | .template => .template
  | .relationType => .relationType

def TreeKind.region : TreeKind → Region
  | .content => .content
  | .media => .media

/-- The route of an item kind. Members go in batches, and a change of a public access entry
always refreshes its whole region. -/
def ItemKind.route (operation : Operation) : ItemKind → Route
  | .member => ⟨.member, operation, .batch⟩
  | .publicAccessEntry => ⟨.publicAccess, .refreshAll, .region⟩
  | kind => ⟨kind.region, operation, .perEntity⟩

namespace Route

/-- The route of a change of a kind. Items are saved and deleted, trees and schemas change, and
no other change of a kind has a route. All schemas share one region. -/
def find? : Change → Kind → Option Route
  | .saved, .item kind => some (kind.route .refresh)
  | .deleted, .item kind => some (kind.route .remove)
  | .treeChanged, .tree kind => some ⟨kind.region, .refresh, .tree⟩
  | .structureChanged, .schema _ => some ⟨.contentType, .refresh, .schema⟩
  | _, _ => none

/-- All routes, each with the change and kind that it starts from. -/
def all : List (Change × Kind × Route) :=
  (Coded.all : List Change).flatMap fun change =>
    (Coded.all : List Kind).filterMap fun kind =>
      (find? change kind).map fun route => (change, kind, route)

/-- The commands for a payload, in its order. Nothing changed means no command. -/
def expand {form : Form} (route : Route) (batches : Bool) (payload : Payload form) :
    List Command :=
  let singles := (payload.steps route.operation).map fun step =>
    Command.single route.region step.1 step.2
  if payload.ids.isEmpty then []
  else
    match route.shape with
    | .region => [⟨route.region, .refreshAll, []⟩]
    | .batch => if batches then [⟨route.region, route.operation, payload.ids⟩] else singles
    | .perEntity | .tree | .schema => singles

end Route

namespace Notification

/-- The route of a notification, which a notification without a change never has. -/
def route? (notification : Notification) : Option Route :=
  notification.change?.bind fun change => Route.find? change notification.kind

def commands (batches : Bool) (notification : Notification) : Except Failure (List Command) :=
  match notification.route? with
  | some route => .ok (route.expand batches notification.payload)
  | none => .error (.unrouted notification.change? notification.kind)

theorem commands_eq_ok_iff {event : Notification} {batches : Bool}
    {commands : List Command} :
    event.commands batches = .ok commands ↔
      ∃ route, event.route? = some route ∧ route.expand batches event.payload = commands := by
  unfold Notification.commands
  cases event.route? <;> simp

/-- On a topic of a single kind every notification has a route. -/
theorem route?_isSome_of_pinned {notification : Notification}
    (h : notification.topic.pinned?.isSome) : notification.route?.isSome := by
  obtain ⟨kind, hkind⟩ := Option.isSome_iff_exists.1 h
  have hpinned := kind_of_pinned hkind
  simp only [route?, change?, hpinned]
  generalize notification.topic = topic at hkind
  cases topic <;> cases hkind <;> rfl

/-- On a bound topic every notification is answered. -/
theorem exists_commands_of_bound {event : Notification} (bound : event.topic ∈ Topic.bound)
    (batches : Bool) : ∃ commands, event.commands batches = .ok commands := by
  obtain ⟨route, mapped⟩ := Option.isSome_iff_exists.1
    (route?_isSome_of_pinned (Topic.mem_bound_iff.1 bound))
  exact ⟨_, commands_eq_ok_iff.2 ⟨route, mapped, rfl⟩⟩

end Notification

end Invalidation
