import Invalidation.Raw
import Invalidation.Text.Quoted
import Invalidation.Text.Shortest

/-!
# Showing raw values

How a raw value is shown where a text is expected: a text as it is, and any other value by its
literal, in which texts are quoted.
-/

set_option autoImplicit false

namespace Invalidation.Raw

mutual

/-- A value as it is written inside another one. -/
def literal : Raw → String
  | null => "None"
  | bool value => if value then "True" else "False"
  | int value => toString value
  | real value => Text.real value
  | minusZero => "-0.0"
  | infinite negative => if negative then "-inf" else "inf"
  | text value => Text.quoted value
  | list values => "[" ++ ", ".intercalate (elementLiterals values) ++ "]"
  | object fields => "\x7b" ++ ", ".intercalate (fieldLiterals fields) ++ "\x7d"

def elementLiterals : List Raw → List String
  | [] => []
  | value :: rest => literal value :: elementLiterals rest

def fieldLiterals : List (String × Raw) → List String
  | [] => []
  | (name, value) :: rest => (Text.quoted name ++ ": " ++ literal value) :: fieldLiterals rest

end

def display : Raw → String
  | text value => value
  | value => literal value

end Invalidation.Raw
