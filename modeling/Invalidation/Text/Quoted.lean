import Invalidation.Text.Unassigned

/-!
# Quoted text

A text inside another one stands between quotes, and what could be mistaken there is written
by an escape: the quote itself, the backslash, and every character that does not show.
-/

set_option autoImplicit false

namespace Invalidation.Text

/-- Ranges of code points of characters that do not show: controls, separators other than the
space, formatting characters, surrogates and private characters. -/
def hiddenRanges : Ranges :=
  [(0x0, 0x1F), (0x7F, 0xA0), (0xAD, 0xAD), (0x600, 0x605), (0x61C, 0x61C), (0x6DD, 0x6DD),
   (0x70F, 0x70F), (0x890, 0x891), (0x8E2, 0x8E2), (0x1680, 0x1680), (0x180E, 0x180E),
   (0x2000, 0x200F), (0x2028, 0x202F), (0x205F, 0x2064), (0x2066, 0x206F), (0x3000, 0x3000),
   (0xD800, 0xF8FF), (0xFEFF, 0xFEFF), (0xFFF9, 0xFFFB), (0x110BD, 0x110BD), (0x110CD, 0x110CD),
   (0x13430, 0x13438), (0x1BCA0, 0x1BCA3), (0x1D173, 0x1D17A), (0xE0001, 0xE0001),
   (0xE0020, 0xE007F), (0xF0000, 0xFFFFD), (0x100000, 0x10FFFD)]

/-- Whether a code point does not show; one without a character never does. -/
def isHidden (point : Nat) : Bool := hiddenRanges.hold point || isUnassigned point

/-- A number in hexadecimal digits, lower-case ones, at least so many. -/
def hex (width n : Nat) : List Char :=
  let digits := Nat.toDigits 16 n
  List.replicate (width - digits.length) '0' ++ digits

def codeEscape (point : Nat) : List Char :=
  if point < 0x100 then '\\' :: 'x' :: hex 2 point
  else if point < 0x10000 then '\\' :: 'u' :: hex 4 point
  else '\\' :: 'U' :: hex 8 point

/-- A code point as it is written between such quotes. -/
def escaped (quote : Char) (point : Nat) : List Char :=
  let c := Char.ofNat point
  if isHidden point then
    if c = '\t' then ['\\', 't']
    else if c = '\n' then ['\\', 'n']
    else if c = '\r' then ['\\', 'r']
    else codeEscape point
  else if c = quote ∨ c = '\\' then ['\\', c]
  else [c]

/-- The quote for a text: the single one, unless the text holds that and no double one. -/
def quoteFor (points : List Nat) : Char :=
  if points.contains ('\x27'.toNat) && !points.contains '"'.toNat then '"' else '\x27'

def quotedPoints (points : List Nat) : String :=
  let quote := quoteFor points
  String.ofList (quote :: points.flatMap (escaped quote) ++ [quote])

def quoted (s : String) : String := quotedPoints (s.toList.map Char.toNat)

end Invalidation.Text
