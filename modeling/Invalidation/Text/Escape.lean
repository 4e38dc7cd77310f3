import Invalidation.Text.Quoted

/-!
# Percent escapes

A percent sign and two hexadecimal digits stand for a byte, and a text is written in bytes by the
encoding UTF-8. Every text can be read: a percent sign that starts no escape stays, and bytes that
make no character turn into the replacement character, one for each row of bytes that could have
begun a character.
-/

set_option autoImplicit false

namespace Invalidation.Text

def hexValue? (c : Char) : Option Nat :=
  if c.isDigit then some (c.toNat - '0'.toNat)
  else if 'a' ≤ c ∧ c ≤ 'f' then some (c.toNat - 'a'.toNat + 10)
  else if 'A' ≤ c ∧ c ≤ 'F' then some (c.toNat - 'A'.toNat + 10)
  else none

def bytesOf (c : Char) : List Nat := (String.utf8EncodeChar c).map UInt8.toNat

def byteEscape (byte : Nat) : List Char := '%' :: (hex 2 byte).map Char.toUpper

/-- Escapes every character of a text that is not kept. -/
def escape (isKept : Char → Bool) (cs : List Char) : List Char :=
  cs.flatMap fun c => if isKept c then [c] else (bytesOf c).flatMap byteEscape

/-- The bytes of a text, with its escapes decoded. -/
def bytes : List Char → List Nat
  | '%' :: a :: b :: rest =>
    match hexValue? a, hexValue? b with
    | some high, some low => (16 * high + low) :: bytes rest
    | _, _ => '%'.toNat :: bytes (a :: b :: rest)
  | c :: rest => bytesOf c ++ bytes rest
  | [] => []

/-- A character of which some bytes are read. -/
structure Opened where
  /-- The bits read so far. -/
  bits : Nat
  missing : Nat
  /-- The ends between which the next byte has to lie. -/
  low : Nat
  high : Nat
  deriving DecidableEq, Repr

/-- What bytes that make no character are read as. -/
def replacement : Char := '\ufffd'

/-- Reads the first byte of a character. -/
def readFirst (byte : Nat) : List Char × Option Opened :=
  if byte < 0x80 then ([Char.ofNat byte], none)
  else if byte < 0xC2 || 0xF4 < byte then ([replacement], none)
  else if byte < 0xE0 then ([], some ⟨byte - 0xC0, 1, 0x80, 0xBF⟩)
  else if byte < 0xF0 then
    ([], some ⟨byte - 0xE0, 2, if byte = 0xE0 then 0xA0 else 0x80,
      if byte = 0xED then 0x9F else 0xBF⟩)
  else
    ([], some ⟨byte - 0xF0, 3, if byte = 0xF0 then 0x90 else 0x80,
      if byte = 0xF4 then 0x8F else 0xBF⟩)

def readByte (byte : Nat) : Option Opened → List Char × Option Opened
  | none => readFirst byte
  | some draft =>
    if draft.low ≤ byte && byte ≤ draft.high then
      let bits := 64 * draft.bits + (byte - 0x80)
      if draft.missing ≤ 1 then ([Char.ofNat bits], none)
      else ([], some ⟨bits, draft.missing - 1, 0x80, 0xBF⟩)
    else
      let (cs, next) := readFirst byte
      (replacement :: cs, next)

/-- Reads bytes as a text, behind what is read of a character. -/
def readBytes (draft : Option Opened) : List Nat → List Char
  | [] => if draft.isSome then [replacement] else []
  | byte :: rest =>
    let (cs, draft) := readByte byte draft
    cs ++ readBytes draft rest

def unescape (cs : List Char) : List Char := readBytes none (bytes cs)

example : unescape "%41%c3%a9%zz".toList = ['A', 'é', '%', 'z', 'z'] := by decide +kernel

example : unescape "%e2%82x%ff".toList = [replacement, 'x', replacement] := by decide +kernel

end Invalidation.Text
