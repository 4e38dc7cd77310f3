import Invalidation.Text.Blank

/-!
# Numerals

How a text is read as an integer. Everything that may surround the significant part of a
numeral is cut first:

* blanks at both ends, and one sign in front, `+` or `-`;
* leading zeros, with any underscores between them;
* a fraction of zeros, at least one, together with its point;
* underscores between two characters, unless two of them stand side by side.

What is left must be a plain numeral of up to 4300 digits: a row of ASCII digits without a leading
zero, which may have a minus sign of its own if it had zeros in front and no other minus sign. A
text is refused for its length only if nothing has to be cut in front of its digits: it starts,
perhaps behind a minus sign, with a longer row of digits that is not led by a zero.
-/

set_option autoImplicit false

namespace Invalidation.Text

inductive Misread where
  | unreadable | oversized
  deriving DecidableEq, Repr

/-- How many digits a numeral may have. -/
def numeralLimit : Nat := 4300

/-- The number written by a row of decimal digits, most significant first. -/
def decimal (digits : List Char) : Nat :=
  digits.foldl (fun n d => 10 * n + (d.toNat - '0'.toNat)) 0

/-- Passes over zeros and underscores that follow a leading zero, up to a digit or a minus sign.
In front of a point, and at the end, the character before is kept. -/
def passZeros (before : Char) : List Char → Option (List Char)
  | [] => some [before]
  | c :: cs =>
    if c = '0' ∨ c = '_' then passZeros c cs
    else if c.isDigit ∨ c = '-' then some (c :: cs)
    else if c = '.' then some (before :: c :: cs)
    else none

/-- A text without its leading zeros; one that starts with no digit has none to lose. -/
def withoutLeadingZeros : List Char → Option (List Char)
  | [] => none
  | c :: cs =>
    if c = '0' then passZeros c cs
    else if c.isDigit then some (c :: cs)
    else none

/-- A text without a point and the zeros behind it, if there is nothing else behind it. -/
def withoutFraction (cs : List Char) : List Char :=
  match cs.dropWhile (· != '.') with
  | _ :: zero :: zeros =>
    if (zero :: zeros).all (· == '0') then cs.takeWhile (· != '.') else cs
  | _ => cs

/-- Whether each underscore stands between two other characters. -/
def spaced (cs : List Char) : Bool := (cs.splitOn '_').all fun group => !group.isEmpty

/-- A text without its underscores, if they are spaced; otherwise they stay. -/
def withoutSpacing (cs : List Char) : List Char :=
  if spaced cs then cs.filter (· != '_') else cs

/-- A row of digits without a leading zero. -/
def isPlain (digits : List Char) : Bool :=
  digits.all Char.isDigit && !digits.isEmpty && (digits.head? != some '0' || digits == ['0'])

def withoutMinus (cs : List Char) : List Char := if cs.head? == some '-' then cs.tail else cs

/-- The value of a plain numeral, and its opposite behind a minus sign. -/
def plain (cs : List Char) : Except Misread Int :=
  let digits := withoutMinus cs
  if isPlain digits && digits.length ≤ numeralLimit then
    .ok (if cs.head? == some '-' then -(decimal digits : Int) else decimal digits)
  else .error .unreadable

/-- Whether a text starts with a row of too many digits, whatever follows them. -/
def isOversized (cs : List Char) : Bool :=
  let row := (withoutMinus cs).takeWhile Char.isDigit
  numeralLimit < row.length && row.head? != some '0'

/-- A numeral whose blanks and plus sign are cut: the minus sign, if there is one, and behind it
what is left when the zeros and underscores are cut. -/
def significant (cs : List Char) : Option (List Char) :=
  (withoutLeadingZeros (withoutMinus cs)).map fun rest =>
    (if cs.head? == some '-' then ['-'] else []) ++ withoutSpacing (withoutFraction rest)

/-- Cuts a plus sign in front; a minus sign may not follow it. -/
def withoutPlus : List Char → Option (List Char)
  | '+' :: '-' :: _ => none
  | '+' :: cs => some cs
  | cs => some cs

/-- The integer that a text stands for which does not start with too many digits. -/
def trimmed (cs : List Char) : Except Misread Int :=
  match (withoutPlus (trim cs)).bind significant with
  | some cs => plain cs
  | none => .error .unreadable

def integer (s : String) : Except Misread Int :=
  if isOversized s.toList then .error .oversized else trimmed s.toList

/-- Only among leading zeros may underscores stand side by side. -/
example : trimmed " -0__1_000.00".toList = .ok (-1000) := by cbv

example : integer "1__0" = .error .unreadable := by cbv

/-- The one minus sign may also follow the zeros. -/
example : integer "0-5" = .ok (-5) := by cbv

end Invalidation.Text
