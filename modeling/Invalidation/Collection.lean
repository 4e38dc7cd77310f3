import Invalidation.Key

/-!
# Collections

A collection is a value with members: a list has its elements, a text its characters and an object
the names of its fields. What may be looked for in it depends on what it is: anything in a list,
only a text in a text, which may be any part of it, and only a key in an object.

Source: how `refresh_many` and `remove_many` go through their `keys`.
-/

set_option autoImplicit false

namespace Invalidation

inductive Collection where
  | list (values : List Raw)
  | text (value : String)
  | object (fields : List (String × Raw))
  deriving Repr

inductive Misfit where
  | noText (found : RawKind)
  | noKey (found : RawKind)
  deriving DecidableEq, Repr

/-- The collection that a value is. -/
def Raw.collection? : Raw → Except RawKind Collection
  | list values => .ok (.list values)
  | text value => .ok (.text value)
  | object fields => .ok (.object fields)
  | value => .error value.kind

namespace Collection

def members : Collection → List Raw
  | list values => values
  | text value => value.toList.map fun c => .text c.toString
  | object fields => fields.map fun field => .text field.1

/-- Whether a text is a part of another one. -/
def isPart (part : List Char) : List Char → Bool
  | [] => part.isEmpty
  | c :: cs => part.isPrefixOf (c :: cs) || isPart part cs

def contains (wanted : Raw) : Collection → Except Misfit Bool
  | list values => .ok (values.any wanted.agrees)
  | text value =>
    match wanted with
    | .text part => .ok (isPart part.toList value.toList)
    | other => .error (.noText other.kind)
  | object fields =>
    match wanted.key? with
    | .ok key => .ok (fields.any fun field => Key.text field.1 == key)
    | .error found => .error (.noKey found)

end Collection

end Invalidation
