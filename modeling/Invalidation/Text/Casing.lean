import Invalidation.Text.Lowercase

/-!
# Letter case

Names are compared without regard to case, in lower or in upper case. Names in upper case are
ASCII, so that change matters only where its result is ASCII; every other character stays as it is
and can match none of them.
-/

set_option autoImplicit false

namespace Invalidation.Text

/-- Characters outside ASCII whose full upper-case form is ASCII: the sharp s, the dotless
i, the long s and the Latin ligatures. -/
def asciiCapitals : List (Char × String) :=
  [('ß', "SS"), ('ı', "I"), ('ſ', "S"), ('ﬀ', "FF"), ('ﬁ', "FI"), ('ﬂ', "FL"), ('ﬃ', "FFI"),
   ('ﬄ', "FFL"), ('ﬅ', "ST"), ('ﬆ', "ST")]

/-- The upper-case form of a character, where that form is ASCII. -/
def capital (c : Char) : List Char :=
  ((asciiCapitals.lookup c).map String.toList).getD [c.toUpper]

/-- Upper case, as far as it lands in ASCII. -/
def upper (s : String) : String := String.ofList (s.toList.flatMap capital)

def lower (s : String) : String := String.ofList (lowered s.toList)

end Invalidation.Text
