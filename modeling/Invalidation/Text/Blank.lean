import Invalidation.Text.Ranges

/-!
# Blank characters

The characters with the `White_Space` property of the Unicode standard, as closed
ranges of code points, and the text that remains when they are cut from both ends.
-/

set_option autoImplicit false

namespace Invalidation.Text

/-- Ranges of code points with the `White_Space` property. -/
def blankRanges : Ranges :=
  [(0x9, 0xD), (0x20, 0x20), (0x85, 0x85), (0xA0, 0xA0), (0x1680, 0x1680), (0x2000, 0x200A),
   (0x2028, 0x2029), (0x202F, 0x202F), (0x205F, 0x205F), (0x3000, 0x3000)]

def isBlank (c : Char) : Bool := blankRanges.hold c.toNat

/-- Cuts the blanks at both ends and leaves those between. -/
def trim (cs : List Char) : List Char :=
  ((cs.dropWhile isBlank).reverse.dropWhile isBlank).reverse

/-- The property has twenty-five characters. -/
example : (blankRanges.map fun (low, high) => high - low + 1).sum = 25 := by decide

end Invalidation.Text
