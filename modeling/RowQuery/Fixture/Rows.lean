import RowQuery.Json.Value
/-!
Rows for tests.
-/

namespace RowQuery.Fixture

/-- A task with a title and perhaps a priority. -/
def todoRow (id : Int) (title : String) (priority : Option Int) : Json.Value :=
  .obj [("id", .int id), ("priority", (priority.map Json.Value.int).getD .null),
    ("title", .str title)]

/-- An invoice over an amount. -/
def invoiceRow (id : Int) (status : String) (amount : Int) : Json.Value :=
  .obj [("amount", .int amount), ("id", .int id), ("status", .str status)]

/-- A row with a column of each usual type and related rows. -/
structure TestRow where
  id : String
  text : String
  number : Option Int
  flag : Bool
  date : Option String
  metadata : Json.Value
  related : List Json.Value

namespace TestRow

/-- The row with an identifier, a text and a number, and defaults elsewhere. -/
def ofText (id text : String) (number : Int) : TestRow :=
  ⟨id, text, some number, false, none, .obj [], []⟩

/-- The row under another identifier. -/
def withId (r : TestRow) (id : String) : TestRow := { r with id := id }

/-- The row without its number. -/
def withoutNumber (r : TestRow) : TestRow := { r with number := none }

/-- The row with its flag up. -/
def flagged (r : TestRow) : TestRow := { r with flag := true }

/-- The row with a date. -/
def onDate (r : TestRow) (date : String) : TestRow := { r with date := some date }

/-- The row with a value under a key of its metadata, if that is an object. -/
def withMember (r : TestRow) (key : String) (v : Json.Value) : TestRow :=
  match r.metadata with
  | .obj members => { r with metadata := .obj (Dict.insert key v members) }
  | _ => r

/-- The row with other metadata. -/
def withMetadata (r : TestRow) (v : Json.Value) : TestRow := { r with metadata := v }

/-- The row with one related row more, which has an identifier of its own. -/
def withRelated (r : TestRow) (id name : String) : TestRow :=
  { r with related := r.related
      ++ [.obj [("id", .str id), ("relation_name", .str name), ("test_id", .str r.id)]] }

/-- The JSON form, with the related rows in it. -/
def toJson (r : TestRow) : Json.Value :=
  .obj [("bool_type", .bool r.flag), ("date_type", .ofText? r.date), ("id", .str r.id),
    ("meta", r.metadata), ("number_type", (r.number.map Json.Value.int).getD .null),
    ("relations", .arr r.related), ("string_type", .str r.text)]

end TestRow
end RowQuery.Fixture
