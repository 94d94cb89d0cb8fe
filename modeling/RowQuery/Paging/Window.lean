import RowQuery.Paging.Connection
import RowQuery.Paging.Page
/-!
Paging by position.

A cursor holds the position of its row in the whole result. A page is a window of positions; unless
its end is known, one row more is fetched to see whether rows follow. Positions are those of 64
unsigned bits.
-/

namespace RowQuery

/-- A plan to fetch a window of positions. -/
structure WindowPlan where
  start : Nat
  size : Nat
  /-- Whether one row more is fetched. -/
  overFetch : Bool
  hasPreviousPage : Bool
  /-- Whether rows follow, if that is known without fetching. -/
  hasNextPage : Option Bool
deriving DecidableEq

namespace WindowPlan

/-- The position of a cursor. -/
def positionOf (c : Cursor) : Except QueryError Nat :=
  match c.intoPosition with
  | .ok index => .ok index
  | .error fault => .error (.cursor fault)

/-- The window of a size from a position, whose end is not known. -/
def openEnded (start size : Nat) : WindowPlan := ⟨start, size, true, decide (0 < start), none⟩

/-- The window of a size that ends before a position. -/
def before (stop size : Nat) : WindowPlan :=
  let start := stop - size
  ⟨start, stop - start, false, decide (0 < start), some true⟩

/-- The plan of a page. -/
def ofPage : Page → Except QueryError WindowPlan
  | .forward size none => .ok (openEnded 0 size)
  | .forward size (some c) => do
    let index ← positionOf c
    return openEnded (min (index + 1) Json.maxUInt64) size
  | .backward _ none => .error (.paging .lastWithoutBefore)
  | .backward size (some c) => do
    let index ← positionOf c
    return before index size
  | .window limit offset => .ok (openEnded offset limit)

/-- The number of rows to fetch. -/
def fetchLimit (p : WindowPlan) : Nat :=
  if p.overFetch then min (p.size + 1) Json.maxUInt64 else p.size

/-- Rows with their cursors, counted from a position. -/
def edgesFrom (position : Nat) : List Json.Value → List (Edge Json.Value)
  | [] => []
  | row :: rest =>
    ⟨row, (Cursor.position (position % (Json.maxUInt64 + 1))).encode⟩
      :: edgesFrom (position + 1) rest

/-- The page of the rows that were fetched. -/
def finish (p : WindowPlan) (rows : List Json.Value) : Connection Json.Value :=
  let more := decide (p.size < rows.length)
  .ofEdges (edgesFrom p.start (rows.take p.size)) (p.hasNextPage.getD more) p.hasPreviousPage

end WindowPlan
end RowQuery
