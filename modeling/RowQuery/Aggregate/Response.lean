import RowQuery.Aggregate.Basic
import RowQuery.Error
/-!
The answers of aggregates: result rows taken apart into their parts.
-/

namespace RowQuery.Aggregate

/-- One result row: for each part the values by field. -/
structure Response where
  part : Part → Dict Json.Value

namespace Response

/-- The response without values. -/
def empty : Response := ⟨fun _ => []⟩

instance : Inhabited Response := ⟨empty⟩

/-- Puts a value under a field of a part. -/
def insert (r : Response) (p : Part) (field : String) (v : Json.Value) : Response :=
  ⟨fun q => if q = p then Dict.insert field v (r.part q) else r.part q⟩

/-- Adds the columns of a result row to a response. -/
def addColumns (r : Response) : List (String × Json.Value) → Except QueryError Response
  | [] => .ok r
  | (column, v) :: rest =>
    match Part.ofColumn? column with
    | none => .error (.unknownAggregateColumn column)
    | some (p, field) => (r.insert p field v).addColumns rest

/-- The response of a result row. -/
def ofRow (row : Json.Row) : Except QueryError Response := empty.addColumns row

/-- The result row of a response. -/
def toRow (r : Response) : Json.Row :=
  Dict.ofList (Part.all.flatMap fun p => (r.part p).map fun e => (p.column e.1, e.2))

/-- The JSON form, empty parts left out. -/
def toJson (r : Response) : Json.Value :=
  .obj ((Part.all.filter fun p => !(r.part p).isEmpty).map fun p => (p.name, .obj (r.part p)))

end Response
end RowQuery.Aggregate
