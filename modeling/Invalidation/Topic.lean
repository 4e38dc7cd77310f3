import Invalidation.Kind
import Invalidation.Payload

/-!
# Topics

The topic of a notification says what happened and, unless it is general or a whole family,
to which kind of entity. `Topic.bound` lists the topics of a single kind, which are those that
cache refreshing listens to.

Source: the classes that derive from `Notification`, and `BOUND_NOTIFICATIONS`.
-/

set_option autoImplicit false

namespace Invalidation

inductive Topic where
  /-- Something happened to entities of some kind. -/
  | general
  /-- The given change happened to entities of some kind. -/
  | family (change : Change)
  | saved (kind : ItemKind)
  | deleted (kind : ItemKind)
  | treeChanged (kind : TreeKind)
  | structureChanged (kind : SchemaKind)
  deriving DecidableEq, Repr

/-- The form in which a change is reported unless the topic says otherwise. -/
def Change.form : Change → Form
  | .saved | .deleted => .entities
  | .treeChanged => .trees
  | .structureChanged => .schemas

namespace Topic

/-- The change that a topic reports. The general topic reports none in particular. -/
def change? : Topic → Option Change
  | general => none
  | family change => some change
  | saved _ => some .saved
  | deleted _ => some .deleted
  | treeChanged _ => some .treeChanged
  | structureChanged _ => some .structureChanged

/-- The kind that all notifications on the topic have, if there is only one. -/
def pinned? : Topic → Option Kind
  | general | family _ => none
  | saved kind | deleted kind => some (.item kind)
  | treeChanged kind => some (.tree kind)
  | structureChanged kind => some (.schema kind)

/-- The form of the payload. Saved user groups come with their users. -/
def form : Topic → Form
  | general => .nothing
  | family change => change.form
  | saved .userGroup => .groups
  | saved _ | deleted _ => .entities
  | treeChanged _ => .trees
  | structureChanged _ => .schemas

end Topic

/-- The name of a kind inside the name of a topic. -/
def ItemKind.stem : ItemKind → String
  | .dataType => "DataType"
  | .dictionaryItem => "DictionaryItem"
  | .domain => "Domain"
  | .language => "Language"
  | .member => "Member"
  | .memberGroup => "MemberGroup"
  | .publicAccessEntry => "PublicAccessEntry"
  | .user => "User"
  | .userGroup => "UserGroup"
  | .macroItem => "Macro"
  | .template => "Template"
  | .relationType => "RelationType"

def TreeKind.stem : TreeKind → String
  | .content => "Content"
  | .media => "Media"

def SchemaKind.stem : SchemaKind → String
  | .contentType => "ContentType"
  | .mediaType => "MediaType"
  | .memberType => "MemberType"

namespace Topic

def name : Topic → String
  | general => "Notification"
  | family .saved => "EntitySaved"
  | family .deleted => "EntityDeleted"
  | family .treeChanged => "TreeChanged"
  | family .structureChanged => "ContentTypeChanged"
  | saved .userGroup => "UserGroupWithUsersSaved"
  | saved kind => kind.stem ++ "Saved"
  | deleted kind => kind.stem ++ "Deleted"
  | treeChanged kind => kind.stem ++ "TreeChanged"
  | structureChanged kind => kind.stem ++ "StructureChanged"

def broad : List Topic :=
  [general, family .saved, family .deleted, family .treeChanged, family .structureChanged]

/-- The item kinds in the order in which their topics are bound, which is that of their stems. -/
def boundItems : List ItemKind :=
  [.dataType, .dictionaryItem, .domain, .language, .macroItem, .member, .memberGroup,
   .publicAccessEntry, .relationType, .template, .user, .userGroup]

/-- The topics that cache refreshing listens to, in the order in which they are bound. -/
def bound : List Topic :=
  boundItems.flatMap (fun kind => [saved kind, deleted kind]) ++
    TreeKind.all.map treeChanged ++ SchemaKind.all.map structureChanged

/-- A topic is bound exactly when it has a single kind. -/
theorem mem_bound_iff {topic : Topic} : topic ∈ bound ↔ topic.pinned?.isSome := by
  rcases topic with _ | change | kind | kind | kind | kind
  · decide
  all_goals cases ‹_› <;> decide

theorem nodup_bound : bound.Nodup := by decide

end Topic

end Invalidation
