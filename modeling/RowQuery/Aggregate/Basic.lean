import RowQuery.Json.Record
import RowQuery.Json.Selection
import RowQuery.Sql.Statement
/-!
Aggregates: functions over fields, for each group of rows if there are grouping fields.

A result row has one column for each part of the answer and field, named after both; the name can be
taken apart again.
-/

namespace RowQuery.Aggregate

/-- An aggregate function. -/
inductive Function where
  | count
  | sum
  | avg
  | max
  | min
deriving DecidableEq, Repr

/-- The functions in the order of their columns. -/
def Function.all : List Function := [.count, .sum, .avg, .max, .min]

/-- The name of a function in SQL. -/
def Function.sqlName : Function → String
  | count => "COUNT"
  | sum => "SUM"
  | avg => "AVG"
  | max => "MAX"
  | min => "MIN"

/-- The member of a request or an answer that a function has. -/
def Function.name : Function → String
  | count => "count"
  | sum => "sum"
  | avg => "avg"
  | max => "max"
  | min => "min"

/-- A part of an answer. -/
inductive Part where
  /-- The values that a group of rows has in common. -/
  | groupBy
  /-- The results of a function. -/
  | call (f : Function)
deriving DecidableEq, Repr

namespace Part

/-- The parts of an answer, in the order of their names. -/
def all : List Part := [.call .avg, .call .count, .groupBy, .call .max, .call .min, .call .sum]

/-- The member of a request or an answer that a part has. -/
def name : Part → String
  | groupBy => "groupBy"
  | call f => f.name

/-- What the columns of a part begin with. -/
def label : Part → String
  | groupBy => "GROUP_BY"
  | call f => f.sqlName

/-- The column of a field in a part. -/
def column (p : Part) (field : String) : String := p.label ++ "_" ++ field

/-- The field of a column of this part: it has a character at least, and no line feed. -/
def field? (p : Part) (column : String) : Option String :=
  let beginning := p.label.toList ++ ['_']
  let field := column.toList.drop beginning.length
  if beginning.isPrefixOf column.toList && !field.isEmpty && !field.contains '\n' then
    some (String.ofList field)
  else none

/-- The part and the field of a column. -/
def ofColumn? (column : String) : Option (Part × String) :=
  all.findSome? fun p => (p.field? column).map fun field => (p, field)

end Part

/-- What is to be computed: for each function its fields, and the grouping fields. -/
structure Spec where
  count : List String
  sum : List String
  avg : List String
  max : List String
  min : List String
  groupBy : List String
deriving DecidableEq

namespace Spec

/-- The fields of a function. -/
def fields (s : Spec) : Function → List String
  | .count => s.count
  | .sum => s.sum
  | .avg => s.avg
  | .max => s.max
  | .min => s.min

/-- The fields of a part. -/
def part (s : Spec) : Part → List String
  | .groupBy => s.groupBy
  | .call f => s.fields f

/-- Whether a function has a field. -/
def hasFunctions (s : Spec) : Bool := Function.all.any fun f => !(s.fields f).isEmpty

/-- What is to be computed, among the members of a record. -/
def ofRecord? (r : Json.Record) : Option Spec := do
  let count ← r.withDefault? "count" [] Json.Value.texts?
  let sum ← r.withDefault? "sum" [] Json.Value.texts?
  let avg ← r.withDefault? "avg" [] Json.Value.texts?
  let max ← r.withDefault? "max" [] Json.Value.texts?
  let min ← r.withDefault? "min" [] Json.Value.texts?
  let groupBy ← r.withDefault? "groupBy" [] Json.Value.texts?
  return ⟨count, sum, avg, max, min, groupBy⟩

/-- The names of the members, in the order in which an array gives them. -/
def memberNames : List String := ["count", "sum", "avg", "max", "min", "groupBy"]

/-- Reads what is to be computed from its JSON form. -/
def read? (v : Json.Value) : Option Spec := do ofRecord? (← v.recordOf? true memberNames)

/-- Reads what is to be computed from a text. -/
def parse? (text : String) : Option Spec :=
  (Json.Value.parseAs? (Json.Reader.membersNamed memberNames) text).bind read?

/-- The JSON form, parts without fields left out. -/
def toJson (s : Spec) : Json.Value :=
  .obj ((Part.all.filter fun p => !(s.part p).isEmpty).map fun p =>
    (p.name, .arr ((s.part p).map .str)))

/-- The items of the statement: the grouping fields, then the functions. -/
def items (s : Spec) (aliasName : String) : List Sql.Item :=
  (s.groupBy.map fun field => .column ⟨aliasName, field⟩ (Part.groupBy.column field))
    ++ Function.all.flatMap fun f => (s.fields f).map fun field =>
      .call f.sqlName ⟨aliasName, field⟩ ((Part.call f).column field)

/-- The grouping columns. -/
def groupColumns (s : Spec) (aliasName : String) : List Sql.Column :=
  s.groupBy.map fun field => ⟨aliasName, field⟩

end Spec
end RowQuery.Aggregate
