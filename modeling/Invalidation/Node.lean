import Invalidation.Command
import Invalidation.Node.Walk
import Invalidation.Table

/-!
# Nodes

A node is the cache of one server. It holds values by region and key, and beside them links
from keys to their parents. A link outlives the value of its key, so a subtree is known also
where some of its keys are not cached. Commands drop values, and removals drop links as well;
`apply` drops from both tables the one set of places that the command covers. A parent should be a
key; a node keeps another value too, but then no subtree of the region can be walked.

Source: `LocalCacheNode`; one with outages stands for a node whose `apply` raises.
-/

set_option autoImplicit false

namespace Invalidation

abbrev Place := Region × Key

/-- Whether the operation also drops the links of the keys that it covers. -/
def Operation.unlinks : Operation → Bool
  | .remove | .refreshAll => true
  | .refresh | .refreshBranch => false

/-- A cached value, and its key in the spelling in which it was given first. -/
structure Entry where
  spelling : Raw
  value : Raw
  deriving Repr

inductive Parent where
  | key (key : Key)
  /-- A value of the kind, which is no key. -/
  | unfit (kind : RawKind)
  deriving DecidableEq, Repr

/-- The parent that a value is; `null` gives none. -/
def Raw.parent? : Raw → Option Parent
  | null => none
  | value =>
    match value.key? with
    | .ok key => some (.key key)
    | .error kind => some (.unfit kind)

structure Node where
  name : String
  entries : Table Place Entry
  links : Table Place Parent
  /-- The operations on which the node cannot be reached, for a node that has such outages. -/
  outage : Option (List Operation)

namespace Node

def new (name : String) (outage : Option (List Operation)) : Node :=
  ⟨name, .empty, .empty, outage⟩

/-- Caches a value. A key that is cached already stays spelled as it is, and a parent that is given
replaces the one known so far. -/
def put (region : Region) (key : Key) (spelling value : Raw) (parent : Option Parent)
    (node : Node) : Node :=
  let spelling := ((node.entries.get? (region, key)).map Entry.spelling).getD spelling
  { node with
    entries := node.entries.insert (region, key) ⟨spelling, value⟩
    links := match parent with
      | some parent => node.links.insert (region, key) parent
      | none => node.links }

def get? (region : Region) (key : Key) (node : Node) : Option Raw :=
  (node.entries.get? (region, key)).map Entry.value

/-- The cached keys of a region with their spellings. -/
def spellings (region : Region) (node : Node) : List (Key × Raw) :=
  node.entries.rows.filterMap fun row =>
    if row.1.1 = region then some (row.1.2, row.2.spelling) else none

/-- The cached keys of a region as they are spelled, in no particular order. -/
def keys (region : Region) (node : Node) : List Raw := (node.spellings region).map Prod.snd

def linksOf (region : Region) (node : Node) : List Walk.Link :=
  node.links.rows.filterMap fun row =>
    match row.2 with
    | .key parent => if row.1.1 = region then some (row.1.2, parent) else none
    | .unfit _ => none

/-- The kind of a parent in the region that is no key, the first one by the order in which the keys
were linked. -/
def unfitParent? (region : Region) (node : Node) : Option RawKind :=
  node.links.rows.findSome? fun row =>
    match row.2 with
    | .key _ => none
    | .unfit kind => if row.1.1 = region then some kind else none

/-- A key together with all keys below it. -/
def subtree (region : Region) (root : Key) (node : Node) : List Key :=
  (Walk.run (node.linksOf region) [root]).reached

/-- The keys that a command names itself or through the subtrees below them. -/
def named (command : Command) (node : Node) : List Key :=
  let keys := command.keys.map Key.ofInt
  if command.operation.descends then
    keys ++ keys.flatMap fun key => node.subtree command.region key
  else keys

/-- What keeps a node from walking the subtrees that a command asks for, if anything does. -/
def obstacle? (command : Command) (node : Node) : Option RawKind :=
  if command.operation.descends && !command.keys.isEmpty then node.unfitParent? command.region
  else none

/-- Whether a command that names the keys covers a place. Refreshing a region covers all of it. -/
def covers (command : Command) (named : List Key) (place : Place) : Bool :=
  place.1 == command.region && (command.operation == .refreshAll || named.contains place.2)

/-- Carries out a command: drops what it covers. -/
def apply (command : Command) (node : Node) : Node :=
  let named := node.named command
  { node with
    entries := node.entries.drop (covers command named)
    links :=
      if command.operation.unlinks then node.links.drop (covers command named) else node.links }

def isOut (operation : Operation) (node : Node) : Bool :=
  (node.outage.getD []).contains operation

/-- Changes the outages of a node that has any; other nodes always stay within reach. -/
def setOutage (operations : List Operation) (node : Node) : Node :=
  { node with outage := node.outage.map fun _ => operations }

end Node

end Invalidation
