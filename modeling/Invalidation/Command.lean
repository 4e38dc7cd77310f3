import Invalidation.Coded

/-!
# Commands

A command tells every cache what to drop from one of its regions: a single key, the keys of a
batch, the subtree below a key, or the region as a whole.

Source: `CacheRegion`, `CacheOperation` and `CacheCommand`.
-/

set_option autoImplicit false

namespace Invalidation

/-- A part of the cache that is invalidated on its own. -/
inductive Region where
  | content | media | contentType | dataType | dictionary | domain | language | member
  | memberGroup | publicAccess | user | userGroup | macroItem | template | relationType
  deriving DecidableEq, Repr

inductive Operation where
  | refresh | remove | refreshBranch | refreshAll
  deriving DecidableEq, Repr

instance : Coded Region where
  all :=
    [.content, .media, .contentType, .dataType, .dictionary, .domain, .language, .member,
     .memberGroup, .publicAccess, .user, .userGroup, .macroItem, .template, .relationType]
  code
    | .content => "Content"
    | .media => "Media"
    | .contentType => "ContentType"
    | .dataType => "DataType"
    | .dictionary => "Dictionary"
    | .domain => "Domain"
    | .language => "Language"
    | .member => "Member"
    | .memberGroup => "MemberGroup"
    | .publicAccess => "PublicAccess"
    | .user => "User"
    | .userGroup => "UserGroup"
    | .macroItem => "Macro"
    | .template => "Template"
    | .relationType => "RelationType"
  find_code region := by cases region <;> rfl

instance : Coded Operation where
  all := [.refresh, .remove, .refreshBranch, .refreshAll]
  code
    | .refresh => "refresh"
    | .remove => "remove"
    | .refreshBranch => "refresh_branch"
    | .refreshAll => "refresh_all"
  find_code operation := by cases operation <;> rfl

/-- Whether the operation reaches the whole subtree below each of its keys. -/
def Operation.descends : Operation → Bool
  | .remove | .refreshBranch => true
  | .refresh | .refreshAll => false

structure Command where
  region : Region
  operation : Operation
  keys : List Int
  deriving DecidableEq, Repr

namespace Command

def key? (command : Command) : Option Int :=
  match command.keys with
  | [key] => some key
  | _ => none

/-- The command for one entity. Refreshing a whole region names no key. -/
def single (region : Region) (operation : Operation) (id : Int) : Command :=
  ⟨region, operation, if operation = .refreshAll then [] else [id]⟩

end Command

end Invalidation
