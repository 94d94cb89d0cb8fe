import RowQuery.Registry
import RowQuery.Json.Plain
import RowQuery.Json.Record
import RowQuery.Toml.Reader
/-!
Catalog documents: the entities of a catalog and the custom operators it declares, as TOML or as
JSON.
-/

namespace RowQuery

/-- What a catalog document says. -/
structure CatalogDocument where
  entities : List Entity
  declarations : List Declaration

/-- Why a catalog is not loaded. -/
inductive CatalogLoadError where
  | unreadable
  | invalid (cause : CatalogError)
deriving DecidableEq, Repr

/-- The text of an error. -/
def CatalogLoadError.message : CatalogLoadError → String
  | unreadable => "failed to parse catalog"
  | invalid cause => cause.message

namespace CatalogDocument

/-- Reads the type of a column. -/
def readType? (knowsNull : Bool) (v : Json.Value) : Option ColumnType := do
  ColumnType.ofName? (← v.choice? knowsNull)

/-- Reads a column. -/
def readField? (knowsNull : Bool) (v : Json.Value) : Option Field := do
  let r ← v.recordOf? knowsNull ["name", "type"]
  let name ← r.required? "name" Json.Value.text?
  let type ← r.required? "type" (readType? knowsNull)
  return ⟨name, type⟩

/-- Reads a relation; without a join kind rows without a related row are kept. -/
def readRelation? (knowsNull : Bool) (v : Json.Value) : Option Relation := do
  let r ← v.recordOf? knowsNull
    ["name", "target", "alias", "join", "local_column", "foreign_column"]
  let name ← r.required? "name" Json.Value.text?
  let target ← r.required? "target" Json.Value.text?
  let aliasName ← r.optional? "alias" Json.Value.text?
  let join ← r.withDefault? "join" .left fun v => do JoinKind.ofName? (← v.choice? knowsNull)
  let localColumn ← r.required? "local_column" Json.Value.text?
  let foreignColumn ← r.required? "foreign_column" Json.Value.text?
  return ⟨name, target, aliasName, join, localColumn, foreignColumn⟩

/-- Reads an entity. -/
def readEntity? (knowsNull : Bool) (v : Json.Value) : Option Entity := do
  let r ← v.recordOf? knowsNull ["name", "table", "alias", "key_set", "fields", "relations"]
  let name ← r.required? "name" Json.Value.text?
  let table ← r.required? "table" Json.Value.text?
  let aliasName ← r.optional? "alias" Json.Value.text?
  let keySet ← r.withDefault? "key_set" [] Json.Value.texts?
  let fields ← r.withDefault? "fields" [] (Json.Value.listOf? (readField? knowsNull))
  let relations ← r.withDefault? "relations" [] (Json.Value.listOf? (readRelation? knowsNull))
  return ⟨name, table, aliasName, keySet, fields, relations⟩

/-- Reads the declaration of a custom operator. -/
def readDeclaration? (knowsNull : Bool) (v : Json.Value) : Option Declaration := do
  let r ← v.recordOf? knowsNull ["handler", "types", "entity", "field", "operations", "config"]
  let handler ← r.required? "handler" Json.Value.text?
  let types ← r.withDefault? "types" [] (Json.Value.listOf? (readType? knowsNull))
  let entity ← r.optional? "entity" Json.Value.text?
  let field ← r.optional? "field" Json.Value.text?
  let operations ← r.withDefault? "operations" [] Json.Value.texts?
  let config ← r.withDefault? "config" .null (Json.Value.plain? knowsNull)
  return ⟨handler, types, entity, field, operations, config⟩

/-- Reads a document. -/
def read? (knowsNull : Bool) (v : Json.Value) : Option CatalogDocument := do
  let r ← v.recordOf? knowsNull ["entities", "custom_filters"]
  let entities ← r.withDefault? "entities" [] (Json.Value.listOf? (readEntity? knowsNull))
  let declarations ←
    r.withDefault? "custom_filters" [] (Json.Value.listOf? (readDeclaration? knowsNull))
  return ⟨entities, declarations⟩

/-- The document of a TOML text; TOML has no null. -/
def ofToml? (text : String) : Option CatalogDocument := do
  read? false (← Toml.parse? text)

/-- The document of a JSON value. -/
def ofJson? : Json.Value → Option CatalogDocument := read? true

/-- The catalog of a document, with the declarations beside it. -/
def load (document? : Option CatalogDocument) :
    Except CatalogLoadError (Catalog × List Declaration) :=
  match document? with
  | none => .error .unreadable
  | some d => match Catalog.ofEntities d.entities with
    | .ok c => .ok (c, d.declarations)
    | .error cause => .error (.invalid cause)

end CatalogDocument
end RowQuery
