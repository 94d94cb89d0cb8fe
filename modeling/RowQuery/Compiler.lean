import RowQuery.Aggregate.Basic
import RowQuery.Paging.Plan
import RowQuery.Scoped.Condition
import RowQuery.Scoped.Joins
import RowQuery.Sql.Text
/-!
Compiling requests into statements.

Every statement is about the rows of one entity under one filter, with the joins that the filter
needs. A compiled request keeps its filter beside the statement, so it can also be run on rows in
memory.
-/

namespace RowQuery

/-- What requests are compiled against. -/
structure Compiler where
  catalog : Catalog
  registry : Registry
  policy : PagingPolicy

/-- Rows to fetch. -/
structure Fetch where
  entity : String
  /-- The filter of the request, with the rows beyond a cursor. -/
  filter : Filter
  statement : Sql.RowStatement

/-- A page to fetch, with the plan that makes it a connection. -/
structure PagedFetch where
  fetch : Fetch
  plan : PagePlan

/-- Rows to count. -/
structure Count where
  entity : String
  filter : Filter
  statement : Sql.Summary

/-- Rows to aggregate. -/
structure Aggregation where
  entity : String
  filter : Filter
  spec : Aggregate.Spec
  statement : Sql.Summary

namespace Compiler

/-- The entity of a name. -/
def entity (c : Compiler) (name : String) : Except QueryError Entity :=
  match c.catalog.find? name with
  | some e => .ok e
  | none => .error (.unknownEntity name)

/-- The rows of an entity that satisfy a filter. -/
def rows (c : Compiler) (e : Entity) (f : Filter) : Except QueryError Sql.Rows := do
  let resolved := f.scope c.catalog e
  let condition ← resolved.condition c.registry e.tableAlias
  return ⟨e.table, e.tableAlias, resolved.joins e.tableAlias, condition⟩

/-- Rows of an entity in an order, cut to a window. -/
def select (c : Compiler) (e : Entity) (f : Filter) (sort : SortOrder) (limit : Option Nat)
    (offset : Nat) : Except QueryError Fetch := do
  let rows ← c.rows e f
  return ⟨e.name, f, rows, sort, limit, offset⟩

/-- The plan of a page, the filter with the rows beyond its cursor and the sort to fetch in. An
entity with a key set is paged by seeking, unless limit and offset are given. -/
def plan (e : Entity) (f : Filter) (sort : SortOrder) (page : Page) :
    Except QueryError (PagePlan × Filter × SortOrder) := do
  let sort := sort.withKeySet e.keySet
  if e.hasKeySet && !page.isWindow then do
    let p ← SeekPlan.ofPage sort page
    let f := match p.beyond with
      | none => f
      | some beyond => f.merge beyond
    return (.seek p, f, p.querySort)
  else do
    let p ← WindowPlan.ofPage page
    return (.window p, f, sort)

/-- Compiles a page. -/
def page (c : Compiler) (name : String) (f : Filter) (sort : SortOrder)
    (arguments : PagingArguments) : Except QueryError PagedFetch := do
  let e ← c.entity name
  let page ← Page.ofArguments arguments c.policy
  let (plan, f, sort) ← plan e f sort page
  let fetch ← c.select e f sort (some plan.fetchLimit) plan.fetchOffset
  return ⟨fetch, plan⟩

/-- Compiles rows without paging. A limit is subject to the policy. -/
def many (c : Compiler) (name : String) (f : Filter) (sort : SortOrder) (limit : Option Nat)
    (offset : Nat) : Except QueryError Fetch := do
  let e ← c.entity name
  match limit with
  | none => c.select e f sort none offset
  | some n => do
    let n ← c.policy.check n
    c.select e f sort (some n) offset

/-- The name of the distinct rows that are counted. -/
def countedName : String := "matched"

/-- Compiles the count of the rows that satisfy a filter. -/
def count (c : Compiler) (name : String) (f : Filter) : Except QueryError Count := do
  let e ← c.entity name
  let rows ← c.rows e f
  return ⟨e.name, f, rows, countedName, [.countAll], []⟩

/-- Compiles aggregates. The distinct rows keep the alias of the table, which the columns name. -/
def aggregate (c : Compiler) (name : String) (f : Filter) (spec : Aggregate.Spec) :
    Except QueryError Aggregation := do
  let e ← c.entity name
  if spec.hasFunctions then do
    let rows ← c.rows e f
    return ⟨e.name, f, spec, rows, e.tableAlias, spec.items e.tableAlias,
      spec.groupColumns e.tableAlias⟩
  else throw .noAggregateFields

end Compiler
end RowQuery
