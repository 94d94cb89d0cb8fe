import RowQuery.Catalog.Basic
import RowQuery.SortOrder
import RowQuery.Sql.Condition
/-!
Statements over the rows of a table.

`Rows` are the rows of one table, seen through joins and under a condition. A joined row repeats the
row of the base table, so rows that go through joins are taken distinct. A `RowStatement` lists
them in order, a `Summary` counts or aggregates them.
-/

namespace RowQuery.Sql

/-- A join on the equality of two columns. -/
structure Join where
  kind : JoinKind
  table : String
  aliasName : String
  /-- The column of the side that owns the relation. -/
  owner : Column
  /-- The column of the joined table. -/
  joined : Column
deriving DecidableEq

/-- The rows of a table that meet a condition, seen through joins. -/
structure Rows where
  table : String
  aliasName : String
  joins : List Join
  condition : Option Condition

/-- Rows in an order, cut to a window. -/
structure RowStatement where
  rows : Rows
  sort : SortOrder
  limit : Option Nat
  offset : Nat

/-- What a summary computes. -/
inductive Item where
  | countAll
  | column (c : Column) (name : String)
  | call (function : String) (c : Column) (name : String)
deriving DecidableEq

/-- Items computed over rows, for each group if there are grouping columns. Rows that go through
joins are first taken distinct in a query of their own, known as `sourceName`. -/
structure Summary where
  rows : Rows
  sourceName : String
  items : List Item
  groupBy : List Column

end RowQuery.Sql
