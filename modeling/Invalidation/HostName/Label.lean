import Invalidation.HostName.Context
import Invalidation.HostName.Direction
import Invalidation.HostName.Permitted
import Invalidation.Text.Composition
import Invalidation.Text.Punycode
import Invalidation.Text.Quoted

/-!
# Labels of host names

A label is a part of a host name between two dots, given by its code points. It is well formed if it
is composed, its hyphens and marks stand in places where they may, every character is permitted or
in the context that it needs, and all of them keep to one direction. A label beyond ASCII also has a
coded form, which starts with `xn--`.
-/

set_option autoImplicit false

namespace Invalidation.HostName

abbrev Label := List Nat

/-- What can be wrong with a host name or with one of its labels. Positions count from one. -/
inductive Defect where
  | nameTooLong
  | empty
  | tooLong
  | notComposed
  /-- The third and fourth characters are hyphens. -/
  | innerHyphens
  | outerHyphen
  | startsWithMark
  | notPermitted (point position : Nat) (label : Label)
  /-- A joiner stands behind a code point of which nothing is known. -/
  | besideNameless (point position : Nat) (label : Label)
  | joiner (point position : Nat) (label : Label)
  | outOfContext (point position : Nat) (label : Label)
  | direction (defect : DirectionDefect) (label : Label)
  /-- A coded form has nothing behind its beginning. -/
  | emptyCode
  | codeEndsInHyphen
  | unreadableCode
  /-- A coded form is not the one of the label that it stands for. -/
  | otherCode
  deriving DecidableEq, Repr

/-- A code point as it is named in messages. -/
def pointName (point : Nat) : String :=
  "U+" ++ (String.ofList (Text.hex 4 point)).toUpper

def DirectionDefect.message (label : Label) : DirectionDefect → String
  | unknown position =>
    "Unknown directionality in label " ++ Text.quotedPoints label ++ " at position " ++
      toString position
  | undecided =>
    "First codepoint in label " ++ Text.quotedPoints label ++ " must be directionality L, R or AL"
  | opposed rightToLeft position =>
    "Invalid direction for codepoint at position " ++ toString position ++
      (if rightToLeft then " in a right-to-left label" else " in a left-to-right label")
  | mixedDigits => "Can not mix numeral types in a right-to-left label"
  | openEnd => "Label ends with illegal codepoint directionality"

def Defect.message : Defect → String
  | nameTooLong => "Domain too long"
  | empty => "Empty Label"
  | tooLong => "Label too long"
  | notComposed => "Label must be in Normalization Form C"
  | innerHyphens => "Label has disallowed hyphens in 3rd and 4th position"
  | outerHyphen => "Label must not start or end with a hyphen"
  | startsWithMark => "Label begins with an illegal combining character"
  | notPermitted point position label =>
    "Codepoint " ++ pointName point ++ " at position " ++ toString position ++ " of " ++
      Text.quotedPoints label ++ " not allowed"
  | besideNameless point position label =>
    "Unknown codepoint adjacent to joiner " ++ pointName point ++ " at position " ++
      toString position ++ " in " ++ Text.quotedPoints label
  | joiner point position label =>
    "Joiner " ++ pointName point ++ " not allowed at position " ++ toString position ++ " in " ++
      Text.quotedPoints label
  | outOfContext point position label =>
    "Codepoint " ++ pointName point ++ " not allowed at position " ++ toString position ++ " in " ++
      Text.quotedPoints label
  | direction defect label => defect.message label
  | emptyCode => "Malformed A-label, no Punycode eligible content found"
  | codeEndsInHyphen => "A-label must not end with a hyphen"
  | unreadableCode => "Invalid A-label"
  | otherCode => "A-label is not the canonical Punycode encoding of its U-label"

/-- The length up to which names, and labels in themselves, are looked at. -/
def nameLimit : Nat := 254

/-- The length up to which labels are served, in their coded form if they have one. -/
def labelLimit : Nat := 63

def hyphen : Nat := '-'.toNat

/-- The first character that may not stand where it does, behind those before, the nearest first. -/
def characterDefect? (label before : List Nat) : List Nat → Option Defect
  | [] => none
  | point :: after =>
    let position := before.length + 1
    if isPermitted point then characterDefect? label (point :: before) after
    else if isJoiner point then
      if before.head?.any isNameless then some (.besideNameless point position label)
      else if joinerFits point before after then characterDefect? label (point :: before) after
      else some (.joiner point position label)
    else if needsContext point then
      if contextFits point before after then characterDefect? label (point :: before) after
      else some (.outOfContext point position label)
    else some (.notPermitted point position label)

def defect? (label : Label) : Option Defect :=
  if label.isEmpty then some .empty
  else if nameLimit < label.length then some .tooLong
  else if !Text.isComposed label then some .notComposed
  else if (label.drop 2).take 2 = [hyphen, hyphen] then some .innerHyphens
  else if label.head? = some hyphen ∨ label.getLast? = some hyphen then some .outerHyphen
  else if label.head?.any Text.isMark then some .startsWithMark
  else
    (characterDefect? label [] label).or
      ((directionDefect? label).map fun defect => .direction defect label)

def codePrefix : List Char := ['x', 'n', '-', '-']

/-- The first defect of a label in lower-case ASCII, which may be a coded form. -/
def writtenDefect? (label : List Char) : Option Defect :=
  if codePrefix.isPrefixOf label then
    let code := label.drop codePrefix.length
    if code.isEmpty then some .emptyCode
    else if code.getLast? = some '-' then some .codeEndsInHyphen
    else
      match Text.Punycode.decode code with
      | some points =>
        if Text.Punycode.encode points = code then defect? points else some .otherCode
      | none => some .unreadableCode
  else defect? (label.map Char.toNat)

/-- How a label is written in ASCII, if it is well formed and not too long. -/
def written? (label : List Char) : Option (List Char) :=
  let points := label.map Char.toNat
  let isAscii := points.all (· < 0x80)
  let code := if isAscii then label else codePrefix ++ Text.Punycode.encode points
  let defect := if isAscii then writtenDefect? label else defect? points
  if defect.isNone && code.length ≤ labelLimit then some code else none

end Invalidation.HostName
