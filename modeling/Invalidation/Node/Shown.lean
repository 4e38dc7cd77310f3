import Invalidation.Node

/-!
# Keys in answers

`LocalCacheNode.keys` gives a set. An answer shows it as a list in ascending order, so it can fail
where the set cannot: there is no order between keys of different sorts.
-/

set_option autoImplicit false

namespace Invalidation.Node

/-- The first key of another sort than the one in front of it, and that one, by their kinds. -/
def clash? : List (Key × Raw) → Option (RawKind × RawKind)
  | a :: b :: rest =>
    if a.1.sort = b.1.sort then clash? (b :: rest) else some (b.2.kind, a.2.kind)
  | _ => none

/-- The cached keys of a region in ascending order, as they are spelled; or the kinds of two of them
that have no order. -/
def shownKeys (region : Region) (node : Node) : Except (RawKind × RawKind) (List Raw) :=
  let ordered := (node.spellings region).mergeSort fun a b => a.1.upTo b.1
  match clash? ordered with
  | some kinds => .error kinds
  | none => .ok (ordered.map Prod.snd)

end Invalidation.Node
