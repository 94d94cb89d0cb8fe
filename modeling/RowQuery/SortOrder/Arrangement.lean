import RowQuery.SortOrder
import RowQuery.Sorting.Basic
/-!
Rows in the order of a sort.

Values of one kind are ordered without contradictions, and so are rows that have values of one kind
in each field of a sort, null apart; insertion puts them in order. Values of different kinds count
as equal or are rounded to be compared, so that the order of other rows may contradict itself.
-/

namespace RowQuery

/-- The kinds of values that are ordered among themselves. -/
inductive SortKind where
  | integer
  /-- A number that is compared as a float. -/
  | float
  | text
  | truth
  /-- Arrays and objects, which count as equal. -/
  | collection
deriving DecidableEq, Repr

/-- The kind of a value, none for null. -/
def SortKind.ofValue? : Json.Value → Option SortKind
  | .null => none
  | .num n => some (if n.int64?.isSome then integer else float)
  | .str _ => some text
  | .bool _ => some truth
  | .arr _ | .obj _ => some collection

namespace SortOrder

/-- Whether a field has values of one kind in some rows, null apart. -/
def isUniformAt (rows : List Json.Row) (field : String) : Bool :=
  match rows.filterMap fun row => SortKind.ofValue? (valueAt row field) with
  | [] => true
  | kind :: kinds => kinds.all fun k => k == kind

/-- Whether each field of a sort has values of one kind in some rows. -/
def isUniform (sort : SortOrder) (rows : List Json.Row) : Bool :=
  sort.all fun s => isUniformAt rows s.field

/-- The rows in the order of a sort, by insertion; rows that compare equal stay in their order. -/
def sortRows (sort : SortOrder) (rows : List Json.Row) : List Json.Row :=
  Sorting.insertion (precedes sort) rows

/-- The rows in the order of a sort, none if the order is found to contradict itself. The blocks are
those of the way in which many rows are sorted. -/
def arrange? (blocks : Sorting.Blocks) (sort : SortOrder) (rows : List Json.Row) :
    Option (List Json.Row) :=
  if isUniform sort rows then some (sortRows sort rows)
  else Sorting.sort? (precedes sort) blocks rows

end SortOrder
end RowQuery
