import Invalidation.Raw
import Invalidation.Text.Casing

/-!
# Looking into the environment

A setting may be given by a variable of the environment, whose name is the name of the setting
behind a common beginning. Letter case may matter in names or not, a variable with an empty text may
count or not, and a text may stand for `null`. Of several variables whose names match, the last one
counts.

Source: the `env_prefix` of `BinderSettings`.
-/

set_option autoImplicit false

namespace Invalidation

abbrev Environment := List (String × String)

structure Lookup where
  /-- What the name of each variable begins with. -/
  beginning : String
  /-- Whether letter case matters in names. -/
  exactCase : Bool
  /-- Whether a variable with an empty text counts as absent. -/
  skipsEmpty : Bool
  /-- The text that stands for `null`, if one does. -/
  nullText : Option String
  deriving DecidableEq, Repr

namespace Lookup

/-- Variables as they are looked for where nothing is said about it. -/
def standard : Lookup := ⟨"CACHEBINDER_", false, false, none⟩

/-- A name in the form in which names are compared. -/
def comparable (lookup : Lookup) (name : String) : String :=
  if lookup.exactCase then name else Text.lower name

/-- What the environment says about a setting, if anything. -/
def find? (lookup : Lookup) (environment : Environment) (setting : String) : Option Raw :=
  let name := lookup.comparable (lookup.beginning ++ setting)
  let wanted := fun (entry : String × String) =>
    lookup.comparable entry.1 == name && !(lookup.skipsEmpty && entry.2.isEmpty)
  (environment.reverse.find? wanted).map fun entry =>
    if lookup.nullText = some entry.2 then .null else .text entry.2

end Lookup

end Invalidation
