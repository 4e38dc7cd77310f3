import Invalidation.Raw

/-!
# Keys

Values are cached under keys. Any value that holds no others can be a key. Numbers are the same key
if they are equal, however they are written, and truth values count as one and zero; a number and a
text are never the same key. Keys are in order as long as all of them are numbers, or all texts.

Source: the keys that `LocalCacheNode` is given. A node takes any value that can be hashed.
-/

set_option autoImplicit false

namespace Invalidation

inductive Key where
  | null
  | number (value : Rat)
  | infinite (negative : Bool)
  | text (value : String)
  deriving DecidableEq, Repr

/-- The key that a value is. A list or an object is none. -/
def Raw.key? : Raw → Except RawKind Key
  | null => .ok .null
  | bool value => .ok (.number (if value then 1 else 0))
  | int value => .ok (.number value)
  | real value => .ok (.number value)
  | minusZero => .ok (.number 0)
  | infinite negative => .ok (.infinite negative)
  | text value => .ok (.text value)
  | list _ => .error .list
  | object _ => .error .object

namespace Key

def ofInt (n : Int) : Key := .number n

@[simp] theorem ofInt_inj {m n : Int} : ofInt m = ofInt n ↔ m = n := by
  simp [ofInt]

/-- The sorts of keys. Keys of two sorts have no order. -/
def sort : Key → Nat
  | number _ | infinite _ => 0
  | text _ => 1
  | null => 2

/-- Whether a key stands in front of another one, or is the same. Sorts come one after another. -/
def upTo : Key → Key → Bool
  | number p, number q => p ≤ q
  | number _, infinite negative => !negative
  | infinite negative, number _ => negative
  | infinite p, infinite q => p || !q
  | text s, text t => !(t < s)
  | a, b => a.sort ≤ b.sort

end Key

end Invalidation
