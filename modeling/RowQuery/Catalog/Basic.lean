import RowQuery.Json.Value
/-!
Catalogs: the entities a request may name, with their columns, key sets and relations.

`Catalog.ofEntities` accepts a list of entities if no name stands twice, every relation leads to an
entity of the list and every key field is a declared field. The faults are looked for in this order:
repeated names first, then entity by entity the relations and the key fields.
-/

namespace RowQuery

/-- The types of columns. -/
inductive ColumnType where
  | integer
  | bigint
  | float
  | decimal
  | text
  | varchar
  | boolean
  | date
  | timestamp
  | timestamptz
  | uuid
  | json
  | jsonb
deriving DecidableEq, Repr

namespace ColumnType

/-- All types. -/
def all : List ColumnType :=
  [.integer, .bigint, .float, .decimal, .text, .varchar, .boolean, .date, .timestamp, .timestamptz,
    .uuid, .json, .jsonb]

/-- The name of a type. -/
def name : ColumnType → String
  | integer => "integer"
  | bigint => "bigint"
  | float => "float"
  | decimal => "decimal"
  | text => "text"
  | varchar => "varchar"
  | boolean => "boolean"
  | date => "date"
  | timestamp => "timestamp"
  | timestamptz => "timestamptz"
  | uuid => "uuid"
  | json => "json"
  | jsonb => "jsonb"

/-- The type of a name. -/
def ofName? (name : String) : Option ColumnType := all.find? fun t => t.name == name

end ColumnType

/-- How rows without a related row are treated by a join. -/
inductive JoinKind where
  | left
  | inner
deriving DecidableEq, Repr

namespace JoinKind

/-- The name of a join kind. -/
def name : JoinKind → String
  | left => "left"
  | inner => "inner"

/-- The join kind of a name. -/
def ofName? (name : String) : Option JoinKind :=
  [left, inner].find? fun k => k.name == name

end JoinKind

/-- A column of an entity. -/
structure Field where
  name : String
  type : ColumnType
deriving DecidableEq

/-- A relation of an entity and the join that follows it. -/
structure Relation where
  name : String
  target : String
  aliasName : Option String
  join : JoinKind
  localColumn : String
  foreignColumn : String
deriving DecidableEq

/-- The alias of the joined table: the relation's name if it has none of its own. -/
def Relation.joinAlias (r : Relation) : String := r.aliasName.getD r.name

/-- An entity: a table with declared columns and relations. An entity with a key set is paged by
seeking, one without by position. -/
structure Entity where
  name : String
  table : String
  aliasName : Option String
  keySet : List String
  fields : List Field
  relations : List Relation
deriving DecidableEq

namespace Entity

/-- The alias of the table: the entity's name if it has none of its own. -/
def tableAlias (e : Entity) : String := e.aliasName.getD e.name

/-- The type of a column; the first declaration counts. -/
def columnType? (e : Entity) (field : String) : Option ColumnType :=
  (e.fields.find? fun f => f.name == field).map (·.type)

/-- The relation of a name; the first declaration counts. -/
def relation? (e : Entity) (name : String) : Option Relation :=
  e.relations.find? fun r => r.name == name

/-- Whether the entity has a key set. -/
def hasKeySet (e : Entity) : Bool := !e.keySet.isEmpty

end Entity

/-- Why entities make no catalog. -/
inductive CatalogError where
  | repeatedEntity (name : String)
  | unknownTarget (entity relation target : String)
  | undeclaredKey (entity field : String)
deriving DecidableEq, Repr

/-- The text of an error. -/
def CatalogError.message : CatalogError → String
  | repeatedEntity name => s!"entity '{name}' declared more than once"
  | unknownTarget entity relation target =>
    s!"relation '{entity}.{relation}' targets unknown entity '{target}'"
  | undeclaredKey entity field => s!"key set field '{entity}.{field}' is not a declared field"

/-- A catalog: its entities. -/
structure Catalog where
  entities : List Entity

namespace Catalog

instance : Inhabited Catalog := ⟨⟨[]⟩⟩

/-- The entity of a name. -/
def find? (c : Catalog) (name : String) : Option Entity :=
  c.entities.find? fun e => e.name == name

/-- The number of entities. -/
def size (c : Catalog) : Nat := c.entities.length

/-- The first name that stands twice, where the names `seen` stand before the list. -/
def repeated? (seen : List String) : List Entity → Option String
  | [] => none
  | e :: rest => if seen.contains e.name then some e.name else repeated? (e.name :: seen) rest

/-- The first fault of an entity of a catalog. -/
def fault? (c : Catalog) (e : Entity) : Option CatalogError :=
  match e.relations.find? fun r => (c.find? r.target).isNone with
  | some r => some (.unknownTarget e.name r.name r.target)
  | none => (e.keySet.find? fun key => (e.columnType? key).isNone).map (.undeclaredKey e.name)

/-- The catalog of some entities. -/
def ofEntities (entities : List Entity) : Except CatalogError Catalog :=
  match repeated? [] entities with
  | some name => .error (.repeatedEntity name)
  | none =>
    match entities.findSome? (fault? ⟨entities⟩) with
    | some fault => .error fault
    | none => .ok ⟨entities⟩

end Catalog
end RowQuery
