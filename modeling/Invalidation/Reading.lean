import Invalidation.Checked
import Invalidation.Coded
import Invalidation.Raw
import Invalidation.Text.Numeral
import Invalidation.Text.Switch

/-!
# Reading raw values

Readers for the single values that records and settings are made of. Reading is lenient
about spelling, so an integer may also be given as a truth value, as a number without a
fractional part or as a numeral, and strict about everything else.

Source: the lax conversions of the fields of a `BaseModel`.
-/

set_option autoImplicit false

namespace Invalidation

/-- A reader takes a raw value to the value it stands for. -/
abbrev Reader (α : Type) := Raw → Checked α

abbrev Fields := List (String × Raw)

namespace Reading

variable {α β : Type}

/-- A word of the vocabulary, spelled exactly; the wrong kind of value is no word either. -/
def word [Coded α] : Reader α
  | .text s => Checked.orFlaw .unknownWord (Coded.ofCode? s)
  | _ => Checked.flaw .unknownWord

/-- The integers that fit into a signed word of 64 bits lie from `-wordBound` up to, but without,
`wordBound`. -/
def wordBound : Int := Int.pow 2 63

/-- The integer that a number with a fractional part stands for: the part must be zero, and the
number must lie strictly between the bounds. -/
def whole (q : Rat) : Checked Int :=
  if q.den ≠ 1 then Checked.flaw .fractional
  else if -wordBound < q.num ∧ q.num < wordBound then .valid q.num
  else Checked.flaw .oversized

def numeral (s : String) : Checked Int :=
  match Text.integer s with
  | .ok n => .valid n
  | .error .unreadable => Checked.flaw .unreadableInteger
  | .error .oversized => Checked.flaw .oversized

/-- An integer. One that is written as an integer may have any size. -/
def integer : Reader Int
  | .int n => .valid n
  | .bool b => .valid (if b then 1 else 0)
  | .real q => whole q
  | .minusZero => .valid 0
  | .infinite _ => Checked.flaw .notFinite
  | .text s => numeral s
  | _ => Checked.flaw .notInteger

/-- An integer that is at least the bound; the bound is tested after reading. -/
def atLeast (bound : Nat) : Reader { n : Nat // bound ≤ n } := fun raw =>
  (integer raw).andThen fun n =>
    if h : (bound : Int) ≤ n then .valid ⟨n.toNat, by omega⟩ else Checked.flaw .belowBound

def bit (n : Int) : Checked Bool :=
  if n = 1 then .valid true
  else if n = 0 then .valid false
  else Checked.flaw .unreadableBoolean

/-- A switch: a truth value, one or zero, or one of the switch words. An integer that does not fit
into a word is no number to a switch, and neither is one that `whole` does not read. -/
def boolean : Reader Bool
  | .bool b => .valid b
  | .int n => if -wordBound ≤ n ∧ n < wordBound then bit n else Checked.flaw .notBoolean
  | .real q =>
    match whole q with
    | .valid n => bit n
    | .faulty _ _ => Checked.flaw .notBoolean
  | .minusZero => .valid false
  | .text s => Checked.orFlaw .unreadableBoolean (Text.switch? s)
  | _ => Checked.flaw .notBoolean

def text : Reader String
  | .text s => .valid s
  | _ => Checked.flaw .notText

/-- Reads every element, the first of which has the given index. -/
def items (read : Reader α) (index : Nat) : List Raw → Checked (List α)
  | [] => .valid []
  | raw :: rest =>
    (((read raw).below (.item index)).both (items read (index + 1) rest)).map fun p => p.1 :: p.2

def list (read : Reader α) : Reader (List α)
  | .list raws => items read 0 raws
  | _ => Checked.flaw .notList

def record (read : Fields → Checked α) : Reader α
  | .object fields => read fields
  | _ => Checked.flaw .notRecord

/-- A field that must be present. One that is present as `null` is not missing. -/
def required (name : String) (read : Reader α) (fields : Fields) : Checked α :=
  Checked.below (.field name) <|
    match fields.lookup name with
    | some raw => read raw
    | none => Checked.flaw .missing

def optional (name : String) (default : α) (read : Reader α) (fields : Fields) : Checked α :=
  match fields.lookup name with
  | some raw => (read raw).below (.field name)
  | none => .valid default

end Reading

end Invalidation
