import RowQuery.Comparison.Truth
import RowQuery.Registry
import RowQuery.Scoped.Basic
/-!
Judging a filter on a row in memory.

The parts of a filter are judged in order and only as far as needed, so an error behind a part that
already decides does not show. Related rows stand under the relation's name, as one object or as an
array; without any, every related column reads as null.
-/

namespace RowQuery.Scoped

/-- The related rows to try: those of an array (an item that is no object has no columns), the one
object, or else a row without columns. -/
def relatedRows : Option Json.Value → List Json.Row
  | some (.obj row) => [row]
  | some (.arr (item :: items)) => (item :: items).map fun v => v.members?.getD []
  | _ => [[]]

/-- Whether one of some rows satisfies a judgement, tried in turn. -/
def anyRow (judge : Json.Row → Except QueryError Bool) : List Json.Row → Except QueryError Bool
  | [] => .ok false
  | row :: rest => do if ← judge row then .ok true else anyRow judge rest

/-- Whether a stored value satisfies one operator: by its handler if there is one, as built in
otherwise. -/
def holdsOperator (registry : Registry) (entity : Entity) (name : String) (actual : Json.Value)
    (op : String) (v : Filter.Value) : Except QueryError Bool :=
  match registry.lookup? op (entity.columnType? name) (some (entity.name, name)) with
  | some r => match r.handler.judge actual v r.config with
    | .holds b => .ok b
    | .undecided => .error (.unknownOperator name op)
    | .aborted => .error .aborted
  | none => Comparison.holds name (.ofName op) actual v

/-- Whether a stored value satisfies one of some operators, tried in turn. -/
def anyOperator (registry : Registry) (entity : Entity) (name : String) (actual : Json.Value) :
    List (String × Filter.Value) → Except QueryError Bool
  | [] => .ok false
  | (op, v) :: rest => do
    if ← holdsOperator registry entity name actual op v then .ok true
    else anyOperator registry entity name actual rest

mutual

/-- Whether a row satisfies a filter. -/
def holds (registry : Registry) (row : Json.Row) : Scoped → Except QueryError Bool
  | .node entity ands ors fields => do
    if ← holdsAll registry row ands then
      if ors.isEmpty then holdsFields registry row entity fields
      else if ← holdsAny registry row ors then holdsFields registry row entity fields
      else .ok false
    else .ok false

/-- Whether a row satisfies every filter. -/
def holdsAll (registry : Registry) (row : Json.Row) : List Scoped → Except QueryError Bool
  | [] => .ok true
  | f :: rest => do if ← holds registry row f then holdsAll registry row rest else .ok false

/-- Whether a row satisfies one of some filters. -/
def holdsAny (registry : Registry) (row : Json.Row) : List Scoped → Except QueryError Bool
  | [] => .ok false
  | f :: rest => do if ← holds registry row f then .ok true else holdsAny registry row rest

/-- Whether a row satisfies every entry. -/
def holdsFields (registry : Registry) (row : Json.Row) (entity : Entity) :
    List (String × ScopedEntry) → Except QueryError Bool
  | [] => .ok true
  | (name, e) :: rest => do
    if ← holdsEntry registry row entity name e then holdsFields registry row entity rest
    else .ok false

/-- Whether a row satisfies an entry. A comparison without operators says nothing. -/
def holdsEntry (registry : Registry) (row : Json.Row) (entity : Entity) (name : String) :
    ScopedEntry → Except QueryError Bool
  | .column operators =>
    if operators.isEmpty then .ok true
    else anyOperator registry entity name ((Dict.find? row name).getD .null) operators
  | .notRelation => .error (.invalidValue name "relation" (.notRelation name entity.name))
  | .unknownTarget relation => .error (.unknownEntity relation.target)
  | .noFilter _ _ => .error (.invalidValue name "relation" .noFilter)
  | .related _ _ filter =>
    anyRow (fun related => holds registry related filter) (relatedRows (Dict.find? row name))

end

end RowQuery.Scoped
