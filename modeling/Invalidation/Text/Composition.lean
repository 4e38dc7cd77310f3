import Invalidation.Text.Composition.Table
import Invalidation.Text.Marks

/-!
# Composed text

A character and the marks on it can often be written in several ways. Text is composed if it is
written in the one way that uses composite characters wherever it can: taken apart completely, with
its marks put in order, and put together again, it is the same text.
-/

set_option autoImplicit false

namespace Invalidation.Text

/-! ## Syllables of Hangul -/

namespace Hangul

/-- The first leading consonant, vowel and syllable. The code point in front of the first trailing
consonant stands for none. -/
def leading : Nat := 0x1100
def vowel : Nat := 0x1161
def trailing : Nat := 0x11A7
def syllable : Nat := 0xAC00

/-- How many leading consonants, vowels and trailing consonants there are, none among the last. -/
def leadings : Nat := 19
def vowels : Nat := 21
def trailings : Nat := 28

def isSyllable (point : Nat) : Bool :=
  syllable ≤ point && point < syllable + leadings * vowels * trailings

/-- The letters of a syllable. -/
def letters (point : Nat) : List Nat :=
  let index := point - syllable
  [leading + index / (vowels * trailings), vowel + index % (vowels * trailings) / trailings] ++
    if index % trailings = 0 then [] else [trailing + index % trailings]

/-- A syllable that a letter makes with what stands in front of it. -/
def compose? (first second : Nat) : Option Nat :=
  if leading ≤ first ∧ first < leading + leadings ∧ vowel ≤ second ∧ second < vowel + vowels then
    some (syllable + ((first - leading) * vowels + (second - vowel)) * trailings)
  else if isSyllable first ∧ (first - syllable) % trailings = 0 ∧ trailing < second ∧
      second < trailing + trailings then
    some (first + (second - trailing))
  else none

end Hangul

/-! ## Taking apart and putting together -/

def compositeDepth : Nat := 4

/-- A character taken apart completely, up to the depth. -/
def apart : Nat → Nat → List Nat
  | 0, point => [point]
  | depth + 1, point =>
    if Hangul.isSyllable point then Hangul.letters point
    else
      match composites.find? fun (_, _, whole) => whole == point with
      | some (first, second, _) => apart depth first ++ [second]
      | none => [point]

/-- Puts a character in front of an ordered text: behind the marks of lower classes. -/
def place (point : Nat) : List Nat → List Nat
  | [] => [point]
  | other :: rest =>
    if 0 < combiningClass other && combiningClass other < combiningClass point then
      other :: place point rest
    else point :: other :: rest

/-- The same text with the marks behind each character in the order of their classes. -/
def ordered (points : List Nat) : List Nat := points.foldr place []

def compose? (first second : Nat) : Option Nat :=
  (Hangul.compose? first second).or
    ((composites.find? fun (a, b, _) => a == first && b == second).map fun (_, _, whole) => whole)

/-- Puts an ordered text together. In front stands the character that those behind it may join, and
between them the marks that did not, the last one first. A mark joins it past marks of lower
classes. -/
def together (front : Nat) (between : List Nat) : List Nat → List Nat
  | [] => front :: between.reverse
  | point :: rest =>
    let near := between.head?.all fun mark => combiningClass mark < combiningClass point
    match if near then compose? front point else none with
    | some whole => together whole between rest
    | none =>
      if combiningClass point = 0 then front :: between.reverse ++ together point [] rest
      else together front (point :: between) rest

/-- Puts an ordered text together, behind the marks at its beginning. -/
def composed (points : List Nat) : List Nat :=
  match points with
  | [] => []
  | point :: rest =>
    if combiningClass point = 0 then together point [] rest else point :: composed rest

def isComposed (points : List Nat) : Bool :=
  !points.any neverComposed.hold &&
    composed (ordered (points.flatMap (apart compositeDepth))) == points

end Invalidation.Text
