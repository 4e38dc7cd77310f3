import Invalidation.HostName.Label
import Invalidation.Text.Lowercase

/-!
# Host names

A host name is a row of labels between dots, and one more dot may end it. A name beyond ASCII is
served if each of its labels is well formed and can be written in ASCII, and a written name whose
first label is a coded form is looked at in the same way.

Source: host names in requests by an absolute target, as the client encodes them. No host name means
anything to `create_app` itself.
-/

set_option autoImplicit false

namespace Invalidation.HostName

def isDot (c : Char) : Bool := ['.', '\u3002', '\uff0e', '\uff61'].contains c

/-- The labels of a name. A dot at the end starts none. -/
def labels (name : List Char) : List (List Char) :=
  let parts := name.splitOnP isDot
  if parts.getLast? = some [] then parts.dropLast else parts

def endsInDot (name : List Char) : Bool := name.getLast?.any isDot

/-- How a name is written in ASCII, if it can be. A dot at its end does not count for its length. -/
def ascii? (name : List Char) : Option (List Char) :=
  let lowered := Text.lowered name
  if nameLimit < lowered.length then none
  else
    match (labels lowered).mapM written? with
    | some parts =>
      let text := ['.'].intercalate parts
      if parts.isEmpty || nameLimit ≤ text.length then none
      else some (if endsInDot name then text ++ ['.'] else text)
    | none => none

/-- The first defect of a name in lower-case ASCII that starts with a coded form. -/
def codedDefect? (name : List Char) : Option Defect :=
  if codePrefix.isPrefixOf name then
    if nameLimit < name.length then some .nameTooLong
    else (labels name).findSome? writtenDefect?
  else none

end Invalidation.HostName
