import RowQuery.Filter.Basic
import RowQuery.Paging.Connection
import RowQuery.Paging.Page
/-!
Paging by seeking.

A sort that ends with a key set gives every row a place of its own, so the rows after a cursor are
the ones that satisfy a filter: they agree with the cursor in some leading fields and come after it
in the next one. A backward page runs the reversed sort, seeks forward in it and turns its rows
round.
-/

namespace RowQuery

open RowQuery.Filter (Operator Value)

namespace Filter

/-- The filter of rows that agree with a value in a field. -/
def agreesWith (field : String) : Value → Filter
  | .null => onField field .is .null
  | v => onField field .eq v

/-- The filter of rows that come after a value in one sort field, none if there are no such rows.
Where null comes last it comes after every value. -/
def comesAfter? (s : SortField) (v : Value) : Option Filter :=
  match s.effectiveNulls, v with
  | .first, .null => some (onField s.field .isNot .null)
  | .last, .null => none
  | nulls, v =>
    let beyond := onField s.field (match s.direction with | .asc => .gt | .desc => .lt) v
    match nulls with
    | .first => some beyond
    | .last => some (beyond.withOperator s.field .is .null)

/-- The scalar of a key field. -/
def keyScalar (k : KeyField) : Except CursorFault Value :=
  match Value.ofJson? k.value with
  | some v => if v.isScalar then .ok v else .error (.notScalar k.field)
  | none => .error (.notScalar k.field)

/-- The filters of which one holds of each row after the key fields, given the filters `agreed` for
the fields that went before. -/
def seekTerms (agreed : List Filter) : SortOrder → List KeyField → Except CursorFault (List Filter)
  | s :: sort, k :: keys => do
    let v ← keyScalar k
    let terms ← seekTerms (agreed ++ [agreesWith s.field v]) sort keys
    match comesAfter? s v with
    | none => return terms
    | some after =>
      return (if agreed.isEmpty then after else allOf (agreed ++ [after])) :: terms
  | _, _ => return []

/-- The filter that no row satisfies, on the first field of a sort. -/
def nothingAfter (sort : SortOrder) : Filter :=
  let field := match sort with
    | [] => "id"
    | s :: _ => s.field
  allOf [onField field .is .null, onField field .isNot .null]

/-- The filter of the rows that come after the key fields in a sort. -/
def seek (sort : SortOrder) (keys : List KeyField) : Except CursorFault Filter := do
  match ← seekTerms [] sort keys with
  | [] => return nothingAfter sort
  | [term] => return term
  | terms => return anyOf terms

end Filter

/-- A plan to seek a page. -/
structure SeekPlan where
  /-- The sort of the page as it is asked for. -/
  sort : SortOrder
  size : Nat
  /-- Whether the page is taken from the end. -/
  backward : Bool
  /-- Whether a cursor bounds the page on the side it is taken from. -/
  cursorGiven : Bool
  /-- The filter of the rows beyond the cursor. -/
  beyond : Option Filter

namespace SeekPlan

/-- The sort in which the rows are fetched. -/
def querySortOf (backward : Bool) (sort : SortOrder) : SortOrder :=
  if backward then sort.inverted else sort

/-- The sort in which the rows are fetched. -/
def querySort (p : SeekPlan) : SortOrder := querySortOf p.backward p.sort

/-- The filter of the rows beyond a cursor. -/
def beyondCursor (sort : SortOrder) (backward : Bool) (c : Cursor) : Except CursorFault Filter := do
  let keys ← c.intoKeyset sort
  Filter.seek (querySortOf backward sort) keys

/-- The plan of a page that starts from an optional cursor. -/
def ofCursor (sort : SortOrder) (size : Nat) (backward : Bool) :
    Option Cursor → Except QueryError SeekPlan
  | none => .ok ⟨sort, size, backward, false, none⟩
  | some c => match beyondCursor sort backward c with
    | .ok f => .ok ⟨sort, size, backward, true, some f⟩
    | .error fault => .error (.cursor fault)

/-- The plan of a page in a sort. -/
def ofPage (sort : SortOrder) : Page → Except QueryError SeekPlan
  | .forward size after => ofCursor sort size false after
  | .backward size before => ofCursor sort size true before
  | .window _ _ => .error (.paging .positional)

/-- The number of rows to fetch: one more than the page has, which tells whether rows follow. -/
def fetchLimit (p : SeekPlan) : Nat := min (p.size + 1) Json.maxUInt64

/-- The edge of a row. -/
def edge (p : SeekPlan) (row : Json.Value) : Edge Json.Value :=
  ⟨row, (Cursor.ofRow (row.members?.getD []) p.sort).encode⟩

/-- The page of the rows that were fetched. -/
def finish (p : SeekPlan) (rows : List Json.Value) : Connection Json.Value :=
  let more := decide (p.size < rows.length)
  let rows := rows.take p.size
  if p.backward then .ofEdges (rows.reverse.map p.edge) p.cursorGiven more
  else .ofEdges (rows.map p.edge) more p.cursorGiven

end SeekPlan
end RowQuery
