import RowQuery.Paging.Cursor
/-!
Connections: pages as they are answered, each row with its cursor.
-/

namespace RowQuery

/-- A row of a page with its cursor. -/
structure Edge (α : Type) where
  node : α
  cursor : String

/-- What is known of the rows around a page. -/
structure PageInfo where
  hasNextPage : Bool
  hasPreviousPage : Bool
  startCursor : Option String
  endCursor : Option String

/-- A page. The total is there only if it was asked for. -/
structure Connection (α : Type) where
  edges : List (Edge α)
  info : PageInfo
  totalCount : Option Nat

namespace Connection

variable {α β : Type}

/-- The page of some edges; its cursors are those of the first and the last edge. -/
def ofEdges (edges : List (Edge α)) (hasNextPage hasPreviousPage : Bool) : Connection α where
  edges := edges
  info := ⟨hasNextPage, hasPreviousPage, edges.head?.map (·.cursor), edges.getLast?.map (·.cursor)⟩
  totalCount := none

/-- The rows of a page. -/
def nodes (c : Connection α) : List α := c.edges.map (·.node)

/-- Applies a function to every row, if it has a result for each. -/
def mapM? (f : α → Option β) (c : Connection α) : Option (Connection β) := do
  let edges ← c.edges.mapM fun e => do return ⟨← f e.node, e.cursor⟩
  return ⟨edges, c.info, c.totalCount⟩

end Connection

/-- The JSON form of the rows around a page. -/
def PageInfo.toJson (info : PageInfo) : Json.Value :=
  .obj [("endCursor", .ofText? info.endCursor), ("hasNextPage", .bool info.hasNextPage),
    ("hasPreviousPage", .bool info.hasPreviousPage), ("startCursor", .ofText? info.startCursor)]

/-- The JSON form of an edge. -/
def Edge.toJson (e : Edge Json.Value) : Json.Value :=
  .obj [("cursor", .str e.cursor), ("node", e.node)]

/-- The JSON form of a page. -/
def Connection.toJson (c : Connection Json.Value) : Json.Value :=
  .obj ([("edges", .arr (c.edges.map Edge.toJson)), ("pageInfo", c.info.toJson)]
    ++ match c.totalCount with
      | none => []
      | some n => [("totalCount", .nat n)])

end RowQuery
