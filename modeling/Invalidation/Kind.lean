import Invalidation.Coded

/-!
# Kinds of entities

Entities fall into three groups by the way they change. Content and media form trees,
the three schema types describe what entities look like, and all other entities are items
that are saved and deleted one by one.

Source: `EntityKind` and `ChangeKind`.
-/

set_option autoImplicit false

namespace Invalidation

inductive TreeKind where
  | content | media
  deriving DecidableEq, Repr

/-- Types that describe the structure of entities. -/
inductive SchemaKind where
  | contentType | mediaType | memberType
  deriving DecidableEq, Repr

inductive ItemKind where
  | dataType | dictionaryItem | domain | language | member | memberGroup | publicAccessEntry
  | user | userGroup | macroItem | template | relationType
  deriving DecidableEq, Repr

inductive Kind where
  | tree (kind : TreeKind)
  | schema (kind : SchemaKind)
  | item (kind : ItemKind)
  deriving DecidableEq, Repr

/-- What happened to the entities of a notification. -/
inductive Change where
  | saved | deleted | treeChanged | structureChanged
  deriving DecidableEq, Repr

def TreeKind.all : List TreeKind := [.content, .media]

def SchemaKind.all : List SchemaKind := [.contentType, .mediaType, .memberType]

def ItemKind.all : List ItemKind :=
  [.dataType, .dictionaryItem, .domain, .language, .member, .memberGroup, .publicAccessEntry,
   .user, .userGroup, .macroItem, .template, .relationType]

def TreeKind.code : TreeKind → String
  | .content => "content"
  | .media => "media"

def SchemaKind.code : SchemaKind → String
  | .contentType => "content_type"
  | .mediaType => "media_type"
  | .memberType => "member_type"

def ItemKind.code : ItemKind → String
  | .dataType => "data_type"
  | .dictionaryItem => "dictionary_item"
  | .domain => "domain"
  | .language => "language"
  | .member => "member"
  | .memberGroup => "member_group"
  | .publicAccessEntry => "public_access_entry"
  | .user => "user"
  | .userGroup => "user_group"
  | .macroItem => "macro"
  | .template => "template"
  | .relationType => "relation_type"

def Kind.all : List Kind :=
  TreeKind.all.map .tree ++ SchemaKind.all.map .schema ++ ItemKind.all.map .item

def Kind.code : Kind → String
  | .tree kind => kind.code
  | .schema kind => kind.code
  | .item kind => kind.code

instance : Coded Kind where
  all := Kind.all
  code := Kind.code
  find_code
    | .tree kind => by cases kind <;> rfl
    | .schema kind => by cases kind <;> rfl
    | .item kind => by cases kind <;> rfl

instance : Coded Change where
  all := [.saved, .deleted, .treeChanged, .structureChanged]
  code
    | .saved => "saved"
    | .deleted => "deleted"
    | .treeChanged => "tree_changed"
    | .structureChanged => "structure_changed"
  find_code change := by cases change <;> rfl

end Invalidation
