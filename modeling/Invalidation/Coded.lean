/-!
# Coded vocabularies

A finite vocabulary lists its words in a fixed order and gives each a written code. The one
law of the class, that looking up a word's code finds the word, says both that the list is
complete and that no two words share a code.

Source: the vocabularies, such as `EntityKind` and `CacheOperation`, and the values of their
members.
-/

set_option autoImplicit false

namespace Invalidation

class Coded (α : Type) where
  all : List α
  /-- How a word is written. -/
  code : α → String
  find_code (a : α) : all.find? (fun b => code b == code a) = some a

export Coded (code)

namespace Coded

variable {α : Type} [Coded α]

/-- The word with the given code, if there is one. -/
def ofCode? (s : String) : Option α := (all : List α).find? fun a => code a == s

@[simp] theorem ofCode?_code (a : α) : ofCode? (code a) = some a := find_code a

theorem code_eq_of_ofCode? {s : String} {a : α} (h : ofCode? s = some a) : code a = s := by
  simpa using List.find?_some h

theorem ofCode?_eq_some_iff {s : String} {a : α} : ofCode? s = some a ↔ code a = s :=
  ⟨code_eq_of_ofCode?, fun h => h ▸ ofCode?_code a⟩

theorem mem_all (a : α) : a ∈ (all : List α) := List.mem_of_find?_eq_some (find_code a)

end Coded

end Invalidation
