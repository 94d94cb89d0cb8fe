import RowQuery.Aggregate.Basic
import RowQuery.SortOrder.Arrangement
/-!
Aggregates over rows in memory.

As in SQL, null is skipped, and of no values at all only the count is not null. A sum of integers
stays an integer as long as every partial sum fits in 64 bits; otherwise, and for other numbers,
sums are floats. What is no number adds nothing.
-/

namespace RowQuery.Aggregate

/-- The sum of integers from left to right, none if a partial sum leaves the 64 bits. -/
def intSum? (total : Int) : List Int → Option Int
  | [] => some total
  | i :: rest => if Json.fitsInt64 (total + i) then intSum? (total + i) rest else none

/-- The float sum from left to right, none if it leaves the finite numbers. -/
def floatSum? (total : Binary64) : List Binary64 → Option Binary64
  | [] => some total
  | x :: rest => (total.add? x).bind fun total => floatSum? total rest

/-- The float sum of numbers; the sum of none is the negative zero, which is neutral. -/
def floatTotal? (xs : List Binary64) : Option Binary64 := floatSum? (.zero true) xs

/-- The JSON value of a float, null for none. -/
def floatValue : Option Binary64 → Json.Value
  | some x => .float x
  | none => .null

/-- The sum of values. -/
def sum (values : List Json.Value) : Json.Value :=
  if values.isEmpty then .null
  else match (values.mapM Json.Value.int64?).bind (intSum? 0) with
    | some total => .int total
    | none => floatValue (floatTotal? (values.filterMap Json.Value.binary64?))

/-- The average of values. -/
def average (values : List Json.Value) : Json.Value :=
  let numbers := values.filterMap Json.Value.binary64?
  if numbers.isEmpty then .null
  else floatValue ((floatTotal? numbers).bind fun total => total.divNat? numbers.length)

/-- Takes a value for the best so far if it compares with it as wanted. -/
def better (wanted : Ordering) (best v : Json.Value) : Json.Value :=
  if v.compare? best = some wanted then v else best

/-- The first of the values that no later one surpasses. -/
def extreme (wanted : Ordering) : List Json.Value → Json.Value
  | [] => .null
  | v :: rest => rest.foldl (better wanted) v

/-- The result of a function over values that are not null. -/
def Function.apply : Function → List Json.Value → Json.Value
  | count, values => .nat values.length
  | sum, values => Aggregate.sum values
  | avg, values => average values
  | max, values => extreme .gt values
  | min, values => extreme .lt values

/-- The values of a field that are not null. -/
def valuesAt (rows : List Json.Row) (field : String) : List Json.Value :=
  (rows.filterMap fun row => Dict.find? row field).filter fun v => !v.isNull

/-- The columns of the functions over some rows. -/
def functionColumns (s : Spec) (rows : List Json.Row) : List (String × Json.Value) :=
  Function.all.flatMap fun f => (s.fields f).map fun field =>
    ((Part.call f).column field, f.apply (valuesAt rows field))

/-- The columns of the grouping fields, from the first row of a group. -/
def groupColumnsOf (s : Spec) (first : Json.Row) : List (String × Json.Value) :=
  s.groupBy.map fun field => (Part.groupBy.column field, SortOrder.valueAt first field)

/-- The rest of a group and the groups after it: a group goes on while its rows agree with its first
one. The rows of the group so far are given last one first. -/
def groupsFrom (sort : SortOrder) (first : Json.Row) (group : List Json.Row) :
    List Json.Row → List (Json.Row × List Json.Row)
  | [] => [(first, group.reverse)]
  | row :: rest =>
    if SortOrder.compareRows sort first row = .eq then groupsFrom sort first (row :: group) rest
    else (first, group.reverse) :: groupsFrom sort row [row] rest

/-- The groups of rows that are in order, each with its first row. -/
def groups (sort : SortOrder) : List Json.Row → List (Json.Row × List Json.Row)
  | [] => []
  | row :: rest => groupsFrom sort row [row] rest

/-- The sort that brings the rows of a group together. -/
def groupSort (s : Spec) : SortOrder := s.groupBy.map SortField.asc

/-- The result row of a group, given with its first row. -/
def groupRow (s : Spec) (g : Json.Row × List Json.Row) : Json.Row :=
  Dict.ofList (groupColumnsOf s g.1 ++ functionColumns s g.2)

/-- The result rows: one for each group, or one for all rows if there are no grouping fields. There
is none if the rows cannot be put in order. -/
def resultRows? (s : Spec) (rows : List Json.Row) : Option (List Json.Row) :=
  if s.groupBy.isEmpty then some [Dict.ofList (functionColumns s rows)]
  else (SortOrder.arrange? .eight (groupSort s) rows).map fun rows =>
    (groups (groupSort s) rows).map (groupRow s)

end RowQuery.Aggregate
