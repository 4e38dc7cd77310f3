import Invalidation.Text.Casing

/-!
# Switches

The words that turn a setting on or off. Letter case does not matter, and blanks are not cut.
-/

set_option autoImplicit false

namespace Invalidation.Text

def onWords : List String := ["1", "true", "t", "yes", "y", "on"]

def offWords : List String := ["0", "false", "f", "no", "n", "off"]

/-- The truth value that a word stands for, if it is one of the twelve. -/
def switch? (s : String) : Option Bool :=
  if onWords.contains (lower s) then some true
  else if offWords.contains (lower s) then some false
  else none

end Invalidation.Text
