/-!
# Raw values

A raw value is what a caller hands over before anything about it is known. Numbers keep
apart whether they were written as integers or with a fractional part, because reading an
integer depends on it. A number with a fractional part that is too large to be held is infinite,
and one that is zero keeps a minus sign, which only shows where the number does.

Source: what is handed to a model, to `BinderSettings` or to a sink. Texts hold no lone surrogates.
-/

set_option autoImplicit false

namespace Invalidation

inductive Raw where
  | null
  | bool (value : Bool)
  | int (value : Int)
  | real (value : Rat)
  | minusZero
  | infinite (negative : Bool)
  | text (value : String)
  | list (values : List Raw)
  | object (fields : List (String × Raw))
  deriving Repr, Inhabited

inductive RawKind where
  | null | bool | int | real | text | list | object
  deriving DecidableEq, Repr

namespace Raw

def kind : Raw → RawKind
  | null => .null
  | bool _ => .bool
  | int _ => .int
  | real _ | minusZero | infinite _ => .real
  | text _ => .text
  | list _ => .list
  | object _ => .object

/-- Whether a value counts as true where only its presence matters: zero, the empty text,
list and object, `false` and `null` do not. -/
def truthy : Raw → Bool
  | null => false
  | bool value => value
  | int value => value != 0
  | real value => value != 0
  | minusZero => false
  | infinite _ => true
  | text value => !value.isEmpty
  | list values => !values.isEmpty
  | object fields => !fields.isEmpty

/-- The number a value stands for without reading any text: truth values count as one and zero. -/
def number? : Raw → Option Rat
  | bool value => some (if value then 1 else 0)
  | int value => some value
  | real value => some value
  | minusZero => some 0
  | _ => none

/-- The integer that a value is; truth values count as one and zero. No text and no number with a
fractional part is one, even if the part is zero. -/
def integer? : Raw → Except RawKind Int
  | bool value => .ok (if value then 1 else 0)
  | int value => .ok value
  | value => .error value.kind

mutual

/-- Whether two values are the same: numbers by value, texts by their characters, lists element
by element, and objects field by field in any order. -/
def agrees : Raw → Raw → Bool
  | null, null => true
  | infinite a, infinite b => a == b
  | text a, text b => a == b
  | list as, list bs => elementsAgree as bs
  | object as, object bs => as.length == bs.length && fieldsAgree as bs
  | a, b =>
    match a.number?, b.number? with
    | some p, some q => p == q
    | _, _ => false

def elementsAgree : List Raw → List Raw → Bool
  | [], [] => true
  | a :: as, b :: bs => agrees a b && elementsAgree as bs
  | _, _ => false

def fieldsAgree : List (String × Raw) → List (String × Raw) → Bool
  | [], _ => true
  | (name, a) :: as, bs =>
    (match bs.lookup name with
      | some b => agrees a b
      | none => false) && fieldsAgree as bs

end

end Raw

end Invalidation
