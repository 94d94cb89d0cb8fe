import RowQuery.Json.Value
/-!
Sort specifications and the order of rows.

Rows are compared field by field. Null stands where the field's null placement says, which follows
the direction if it is not given: last when ascending, first when descending. Two values that do not
compare count as equal.
-/

namespace RowQuery

/-- The direction of a sort field. -/
inductive Direction where
  | asc
  | desc
deriving DecidableEq, Repr

namespace Direction

/-- The other direction. -/
def inverted : Direction → Direction
  | asc => desc
  | desc => asc

/-- Whether small values come first. -/
def isAscending : Direction → Bool
  | asc => true
  | desc => false

/-- The keyword of a direction. -/
def keyword : Direction → String
  | asc => "ASC"
  | desc => "DESC"

end Direction

/-- Where null stands. -/
inductive NullsOrder where
  | first
  | last
deriving DecidableEq, Repr

namespace NullsOrder

/-- The other place. -/
def inverted : NullsOrder → NullsOrder
  | first => last
  | last => first

/-- The name of a null placement in a request. -/
def name : NullsOrder → String
  | first => "NULLS_FIRST"
  | last => "NULLS_LAST"

/-- The keywords of a null placement. -/
def keywords : NullsOrder → String
  | first => "NULLS FIRST"
  | last => "NULLS LAST"

end NullsOrder

/-- One field of a sort. The order in a list of them is the precedence. -/
structure SortField where
  field : String
  direction : Direction
  nulls : Option NullsOrder
deriving DecidableEq, Repr

namespace SortField

/-- Ascending by a field. -/
def asc (field : String) : SortField := ⟨field, .asc, none⟩

/-- Descending by a field. -/
def desc (field : String) : SortField := ⟨field, .desc, none⟩

/-- The reversed order: another direction and, if it is given, another null placement. A null
placement that follows the direction changes with it. -/
def inverted (s : SortField) : SortField :=
  ⟨s.field, s.direction.inverted, s.nulls.map NullsOrder.inverted⟩

/-- The null placement in force. -/
def effectiveNulls (s : SortField) : NullsOrder :=
  s.nulls.getD (match s.direction with | .asc => .last | .desc => .first)

end SortField

/-- A sort: fields in the order of their precedence. -/
abbrev SortOrder := List SortField

namespace SortOrder

/-- A sort followed by the key fields it does not name, ascending. -/
def withKeySet (sort : SortOrder) (keySet : List String) : SortOrder :=
  keySet.foldl (fun sort key =>
    if sort.any fun s => s.field == key then sort else sort ++ [.asc key]) sort

/-- The reversed sort. -/
def inverted (sort : SortOrder) : SortOrder := sort.map SortField.inverted

/-- The value of a field in a row; a missing field is null. -/
def valueAt (row : Json.Row) (field : String) : Json.Value := (Dict.find? row field).getD .null

/-- Compares two values under one sort field. -/
def compareValues (s : SortField) (a b : Json.Value) : Ordering :=
  match a.isNull, b.isNull with
  | true, true => .eq
  | true, false => if s.effectiveNulls = .first then .lt else .gt
  | false, true => if s.effectiveNulls = .first then .gt else .lt
  | false, false =>
    let order := (a.compare? b).getD .eq
    if s.direction.isAscending then order else order.swap

/-- Compares two rows: the first field that tells them apart decides. -/
def compareRows (sort : SortOrder) (a b : Json.Row) : Ordering :=
  match sort with
  | [] => .eq
  | s :: rest =>
    (compareValues s (valueAt a s.field) (valueAt b s.field)).then (compareRows rest a b)

/-- Whether a row stands before another one. -/
def precedes (sort : SortOrder) (a b : Json.Row) : Bool := decide (compareRows sort a b = .lt)

end SortOrder
end RowQuery
