import RowQuery.Aggregate.Compute
import RowQuery.Compiler
import RowQuery.Scoped.Truth
/-!
Rows in memory.

A store answers compiled requests from the filter and the sort they were compiled from. Its catalog
and its registry may be others than those of the compiler.
-/

namespace RowQuery

/-- Why a compiled request cannot be run. -/
inductive ExecutionError where
  | unknownEntity (name : String)
  /-- The filter cannot be judged on a row of the entity. -/
  | filter (entity : String) (cause : QueryError)
deriving DecidableEq, Repr

/-- The texts of an error and of what caused it. -/
def ExecutionError.messages : ExecutionError → List String
  | unknownEntity name => [s!"unknown entity '{name}'"]
  | filter entity cause => [s!"failed to evaluate filter on '{entity}'", cause.message]

/-- Why a compiled request has no answer. -/
inductive NoAnswer where
  | error (cause : ExecutionError)
  /-- The order of the rows contradicts itself, and the request is given up. -/
  | givenUp
deriving DecidableEq, Repr

/-- Rows by the name of their entity. -/
structure Store where
  catalog : Catalog
  registry : Registry
  tables : Dict (List Json.Row)

namespace Store

/-- The name of this kind of store. -/
def kind : String := "memory"

/-- A store without rows. -/
def empty (catalog : Catalog) (registry : Registry) : Store := ⟨catalog, registry, []⟩

/-- The rows of an entity. -/
def table (s : Store) (entity : String) : List Json.Row := (Dict.find? s.tables entity).getD []

/-- Adds rows to an entity; values that are no objects are left out. -/
def insert (s : Store) (entity : String) (values : List Json.Value) : Store :=
  { s with
    tables := Dict.insert entity (s.table entity ++ values.filterMap Json.Value.members?) s.tables }

/-- The rows that satisfy a filter, in their order. The first row on which the filter cannot be
judged ends the search. -/
def select (s : Store) (entity : String) (f : Scoped) :
    List Json.Row → Except ExecutionError (List Json.Row)
  | [] => .ok []
  | row :: rest =>
    match f.holds s.registry row with
    | .error cause => .error (.filter entity cause)
    | .ok b => (s.select entity f rest).map fun rows => if b then row :: rows else rows

/-- The rows of an entity that satisfy a filter. -/
def matching (s : Store) (entity : String) (f : Filter) : Except ExecutionError (List Json.Row) :=
  match s.catalog.find? entity with
  | none => .error (.unknownEntity entity)
  | some e => s.select entity (f.scope s.catalog e) (s.table entity)

/-- The window of a list that skips some items and then takes some, or all. -/
def window {α : Type} (limit : Option Nat) (offset : Nat) (xs : List α) : List α :=
  match limit with
  | none => xs.drop offset
  | some n => (xs.drop offset).take n

/-- What could be put in order. -/
def ordered {α : Type} : Option α → Except NoAnswer α
  | some a => .ok a
  | none => .error .givenUp

/-- Fetches rows. -/
def fetch (s : Store) (q : Fetch) : Except NoAnswer (List Json.Value) := do
  let rows ← (s.matching q.entity q.filter).mapError .error
  let rows ← ordered (q.statement.sort.arrange? .eight rows)
  return (window q.statement.limit q.statement.offset rows).map .obj

/-- Counts rows. -/
def count (s : Store) (q : Count) : Except ExecutionError Nat :=
  (s.matching q.entity q.filter).map List.length

/-- Aggregates rows. -/
def aggregate (s : Store) (q : Aggregation) : Except NoAnswer (List Json.Row) := do
  let rows ← (s.matching q.entity q.filter).mapError .error
  ordered (Aggregate.resultRows? q.spec rows)

end Store
end RowQuery
