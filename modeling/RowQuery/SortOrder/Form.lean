import RowQuery.Json.Record
import RowQuery.Json.Selection
import RowQuery.SortOrder
/-!
The JSON form of sorts.
-/

namespace RowQuery

/-- The direction of a name, in capitals or in small letters. -/
def Direction.ofName? (name : String) : Option Direction :=
  if name = "ASC" ∨ name = "asc" then some .asc
  else if name = "DESC" ∨ name = "desc" then some .desc
  else none

/-- The null placement of a name. -/
def NullsOrder.ofName? (name : String) : Option NullsOrder :=
  [NullsOrder.first, NullsOrder.last].find? fun n => n.name == name

namespace SortField

/-- The names of the members, in the order in which an array gives them. -/
def memberNames : List String := ["field", "direction", "nulls"]

/-- Reads a sort field; without a direction it is ascending. -/
def read? (v : Json.Value) : Option SortField := do
  let r ← v.recordOf? true memberNames
  let field ← r.required? "field" Json.Value.text?
  let direction ← r.withDefault? "direction" .asc fun v => do
    Direction.ofName? (← v.choice? true)
  let nulls ← r.nullable? "nulls" fun v => do NullsOrder.ofName? (← v.choice? true)
  return ⟨field, direction, nulls⟩

/-- The JSON form of a sort field. -/
def toJson (s : SortField) : Json.Value :=
  .obj ([("direction", .str s.direction.keyword), ("field", .str s.field)]
    ++ match s.nulls with
      | none => []
      | some n => [("nulls", .str n.name)])

end SortField

namespace SortOrder

/-- Reads a sort. -/
def read? : Json.Value → Option SortOrder := Json.Value.listOf? SortField.read?

/-- How a sort is read from a text. -/
def form : Json.Reader.Form := Json.Reader.itemsOf (Json.Reader.membersNamed SortField.memberNames)

/-- Reads a sort from a text. -/
def parse? (text : String) : Option SortOrder := (Json.Value.parseAs? form text).bind read?

/-- The JSON form of a sort. -/
def toJson (sort : SortOrder) : Json.Value := .arr (sort.map SortField.toJson)

end SortOrder
end RowQuery
