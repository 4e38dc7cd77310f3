/-!
# Shortest decimals

A number of double precision is written with the fewest digits that read back as the same
number. The numbers that read back as `q` form an interval around it, which reaches half way to
its neighbours on both sides; its ends belong to it if `q` is an even multiple of its spacing.
For each count of digits only the two decimals next to `q` can lie in the interval.
-/

set_option autoImplicit false

namespace Invalidation.Text

def power (base : Nat) (exponent : Int) : Rat :=
  if exponent < 0 then mkRat 1 (base.pow exponent.natAbs) else (base.pow exponent.natAbs : Nat)

/-- The exponent of the greatest power of two up to a positive number whose denominator is a power
of two. -/
def binaryExponent (q : Rat) : Int := (q.num.natAbs.log2 : Int) - q.den.log2

/-- The exponent of the distance to the next larger number: fifty-three binary digits are kept, but
none below the smallest. -/
def spacingExponent (q : Rat) : Int := max (binaryExponent q - 52) (-1074)

/-- Whether a decimal reads back as the positive number `q`. Below a power of two the neighbours lie
twice as close. -/
def readsBack (q x : Rat) : Bool :=
  let exponent := spacingExponent q
  let half := power 2 (exponent - 1)
  let narrow := q == power 2 (binaryExponent q) && -1074 < exponent
  let low := q - (if narrow then half / 2 else half)
  let high := q + half
  if (q / power 2 exponent).num % 2 = 0 then low ≤ x && x ≤ high else low < x && x < high

/-- How many times a number below one takes the factor ten until it is not below one any more. -/
def decimalPlaces (q : Rat) : Nat :=
  ((List.range 325).find? fun (k : Nat) => decide (1 ≤ q * power 10 k)).getD 325

/-- The exponent of the greatest power of ten up to a positive number of double precision. -/
def decimalExponent (q : Rat) : Int :=
  if 1 ≤ q then (Nat.toDigits 10 q.floor.natAbs).length - 1 else -(decimalPlaces q : Int)

/-- A decimal: the digits as a number, and the exponent of the last digit. -/
structure Decimal where
  digits : Nat
  exponent : Int

def Decimal.value (d : Decimal) : Rat := d.digits * power 10 d.exponent

/-- Of the two decimals of so many digits next to `q` the one that reads back; of two the nearer,
and the even one where both are equally near. -/
def nearest? (q : Rat) (count : Nat) : Option Decimal :=
  let exponent := decimalExponent q + 1 - count
  let below : Decimal := ⟨(q / power 10 exponent).floor.natAbs, exponent⟩
  let above : Decimal := ⟨below.digits + 1, exponent⟩
  let preferBelow :=
    q - below.value < above.value - q || q - below.value == above.value - q && below.digits % 2 == 0
  let (first, second) := if preferBelow then (below, above) else (above, below)
  [first, second].find? fun d => readsBack q d.value

/-- The shortest decimal that reads back as the positive number `q`. Seventeen digits are always
enough. -/
def shortest (q : Rat) : Decimal :=
  ((List.range 17).findSome? fun n => nearest? q (n + 1)).getD ⟨q.floor.natAbs, 0⟩

def Decimal.significant (d : Decimal) : List Char :=
  ((Nat.toDigits 10 d.digits).reverse.dropWhile (· == '0')).reverse

/-- How many digits stand in front of the point; it is negative if zeros follow the point. -/
def Decimal.point (d : Decimal) : Int := (Nat.toDigits 10 d.digits).length + d.exponent

def zeros (count : Nat) : List Char := List.replicate count '0'

/-- Digits with a point, which has a digit on either side. -/
def positional (digits : List Char) (point : Int) : List Char :=
  if point ≤ 0 then '0' :: '.' :: (zeros point.natAbs ++ digits)
  else
    let front := digits.take point.natAbs ++ zeros (point.natAbs - digits.length)
    let back := digits.drop point.natAbs
    front ++ '.' :: (if back.isEmpty then ['0'] else back)

/-- Digits with an exponent, which has a sign and at least two digits. -/
def scientific (digits : List Char) (point : Int) : List Char :=
  let exponent := Nat.toDigits 10 (point - 1).natAbs
  let fraction := if digits.length ≤ 1 then [] else '.' :: digits.tail
  digits.take 1 ++ fraction ++ 'e' :: (if point - 1 < 0 then '-' else '+') ::
    (zeros (2 - exponent.length) ++ exponent)

/-- A number of double precision as text: positional from a ten-thousandth up to sixteen digits in
front of the point, and with an exponent otherwise. -/
def real (q : Rat) : String :=
  let d := shortest (if q < 0 then -q else q)
  let body :=
    if q = 0 then ['0', '.', '0']
    else if -4 < d.point ∧ d.point ≤ 16 then positional d.significant d.point
    else scientific d.significant d.point
  String.ofList (if q < 0 then '-' :: body else body)

end Invalidation.Text
