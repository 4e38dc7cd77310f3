import Invalidation.Text.Escape
import Invalidation.Text.Numeral

/-!
# Numeric host addresses

Which hosts of a target are taken for numeric addresses, and which of those are well formed. A
host is taken for a dotted address if it is four rows of digits between dots, and for an address of
groups by the brackets around it.
-/

set_option autoImplicit false

namespace Invalidation.Target

/-- Whether a host is four rows of digits with a dot between each two. -/
def looksDotted (host : List Char) : Bool :=
  let parts := host.splitOn '.'
  parts.length == 4 && parts.all fun part => !part.isEmpty && part.all Char.isDigit

/-- A number up to 255 in digits, without leading zeros. -/
def isOctet (digits : List Char) : Bool :=
  Text.isPlain digits && digits.length ≤ 3 && Text.decimal digits ≤ 255

def isDotted (host : List Char) : Bool :=
  let parts := host.splitOn '.'
  parts.length == 4 && parts.all isOctet

/-- Up to four hexadecimal digits. -/
def isGroup (digits : List Char) : Bool :=
  !digits.isEmpty && digits.length ≤ 4 && digits.all fun c => (Text.hexValue? c).isSome

/-- The texts in front of and behind the first two colons that stand side by side. -/
def gap? : List Char → Option (List Char × List Char)
  | ':' :: ':' :: rest => some ([], rest)
  | c :: rest => (gap? rest).map fun p => (c :: p.1, p.2)
  | [] => none

def groups (cs : List Char) : List (List Char) := if cs.isEmpty then [] else cs.splitOn ':'

/-- The groups at the end of an address, where a dotted address stands for two of them. -/
def lastGroups (cs : List Char) : List (List Char) :=
  match (groups cs).getLast? with
  | some last => if isDotted last then (groups cs).dropLast ++ [['0'], ['0']] else groups cs
  | none => []

/-- Eight groups, or fewer around one gap. -/
def isColoned (cs : List Char) : Bool :=
  match gap? cs with
  | some (front, back) =>
    let all := groups front ++ lastGroups back
    all.all isGroup && all.length < 8
  | none => (lastGroups cs).all isGroup && (lastGroups cs).length == 8

/-- An address of groups, behind which a percent sign may introduce the name of a zone. -/
def isBracketed (cs : List Char) : Bool :=
  match cs.splitOn '%' with
  | [address] => isColoned address
  | [address, zone] => isColoned address && !zone.isEmpty
  | _ => false

end Invalidation.Target
