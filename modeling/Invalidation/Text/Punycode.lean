/-!
# Writing any text in letters and digits

A text is written by its ASCII characters, a hyphen if there are any, and numbers that say where
the other characters go: in the order of their code points, each number is the distance to the next
place for a character, counted through all places in the text so far and all code points. Numbers
have the base 36 and their least digit in front; they end at a digit below a threshold that hangs on
the numbers before.
-/

set_option autoImplicit false

namespace Invalidation.Text.Punycode

def digit? (c : Char) : Option Nat :=
  if c.isLower then some (c.toNat - 'a'.toNat)
  else if c.isUpper then some (c.toNat - 'A'.toNat)
  else if c.isDigit then some (c.toNat - '0'.toNat + 26)
  else none

def digitChar (n : Nat) : Char :=
  if n < 26 then Char.ofNat ('a'.toNat + n) else Char.ofNat ('0'.toNat + (n - 26))

/-- The threshold of a digit by its place in a number. -/
def threshold (place bias : Nat) : Nat := min 26 (max 1 (36 * (place + 1) - bias))

theorem threshold_pos (place bias : Nat) : 1 ≤ threshold place bias := by
  unfold threshold
  omega

/-- The bias that a distance leads to once it is scaled. -/
def scaled (bias distance : Nat) : Nat :=
  if 455 < distance then scaled (bias + 36) (distance / 35)
  else bias + 36 * distance / (distance + 38)
termination_by distance
decreasing_by omega

/-- The bias for the next number, after a distance that brought the text to its size. The first
distance counts for less, because it is the longest. -/
def nextBias (distance size : Nat) (isFirst : Bool) : Nat :=
  let damped := distance / if isFirst then 700 else 2
  scaled 0 (damped + damped / size)

def firstBias : Nat := 72

def firstPoint : Nat := 0x80

def lastPoint : Nat := 0x10FFFF

/-! ## Reading -/

/-- A number and what follows it. -/
def number? (bias place weight : Nat) : List Char → Option (Nat × List Char)
  | [] => none
  | c :: rest =>
    match digit? c with
    | none => none
    | some digit =>
      if digit < threshold place bias then some (digit * weight, rest)
      else
        (number? bias (place + 1) (weight * (36 - threshold place bias)) rest).map
          fun (n, rest) => (digit * weight + n, rest)

theorem length_lt_of_number? {bias : Nat} {cs : List Char} {place weight : Nat}
    {found : Nat × List Char} (h : number? bias place weight cs = some found) :
    found.2.length < cs.length := by
  induction cs generalizing place weight found with
  | nil => simp [number?] at h
  | cons c rest ih =>
    rw [number?] at h
    split at h
    · simp at h
    · split at h
      · simp only [Option.some.injEq] at h
        subst h
        simp
      · obtain ⟨more, hmore, rfl⟩ := Option.map_eq_some_iff.1 h
        have := ih hmore
        simp only [List.length_cons]
        omega

/-- Puts the characters that the numbers stand for into a text, from the code point and the place in
the text on. -/
def insertAll (bias point place : Nat) (isFirst : Bool) (text : List Nat) (cs : List Char) :
    Option (List Nat) :=
  match cs with
  | [] => some text
  | c :: rest =>
    match h : number? bias 0 1 (c :: rest) with
    | none => none
    | some (distance, behind) =>
      let size := text.length + 1
      let point := point + (place + distance) / size
      let place := (place + distance) % size
      if lastPoint < point then none
      else
        insertAll (nextBias distance size isFirst) point (place + 1) false
          (text.insertIdx place point) behind
termination_by cs.length
decreasing_by exact length_lt_of_number? h

/-- The code points of the text that is written so. -/
def decode (cs : List Char) : Option (List Nat) :=
  let behind := (cs.reverse.takeWhile (· != '-')).reverse
  let front := cs.take (cs.length - behind.length - 1)
  insertAll firstBias firstPoint 0 true (front.map Char.toNat) behind

/-! ## Writing -/

def digits (bias place n : Nat) : List Char :=
  if n < threshold place bias then [digitChar n]
  else
    let above := n - threshold place bias
    let count := 36 - threshold place bias
    digitChar (threshold place bias + above % count) :: digits bias (place + 1) (above / count)
termination_by n
decreasing_by
  have := threshold_pos place bias
  exact Nat.lt_of_le_of_lt (Nat.div_le_self _ _) (by omega)

/-- A text that is being written: the digits so far, the distance since the last of them, the bias,
and how many characters are written. -/
structure Draft where
  written : List Char
  distance : Nat
  bias : Nat
  count : Nat

/-- Passes a character of the text on the way through all places for a code point. -/
def Draft.pass (point : Nat) (isFirst : Nat → Bool) (draft : Draft) (other : Nat) : Draft :=
  if other < point then { draft with distance := draft.distance + 1 }
  else if other = point then
    { written := draft.written ++ digits draft.bias 0 draft.distance,
      distance := 0,
      bias := nextBias draft.distance (draft.count + 1) (isFirst draft.count),
      count := draft.count + 1 }
  else draft

/-- Writes the characters beyond ASCII, whose code points are given in ascending order, from a code
point on. -/
def writeAll (text : List Nat) (isFirst : Nat → Bool) : List Nat → Nat → Draft → List Char
  | [], _, draft => draft.written
  | point :: rest, before, draft =>
    let start := { draft with distance := draft.distance + (point - before) * (draft.count + 1) }
    let after := text.foldl (Draft.pass point isFirst) start
    writeAll text isFirst rest (point + 1) { after with distance := after.distance + 1 }

/-- The way a text is written, given by its code points. -/
def encode (text : List Nat) : List Char :=
  let plain := text.filter (· < firstPoint)
  let others := ((text.filter (firstPoint ≤ ·)).mergeSort).eraseDups
  plain.map Char.ofNat ++ (if plain.isEmpty then [] else ['-']) ++
    writeAll text (· == plain.length) others firstPoint ⟨[], 0, firstBias, plain.length⟩

end Invalidation.Text.Punycode
