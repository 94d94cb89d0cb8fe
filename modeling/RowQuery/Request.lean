import RowQuery.Aggregate.Basic
import RowQuery.Filter.Basic
import RowQuery.Paging.Page
import RowQuery.SortOrder.Form
/-!
Requests in their JSON form.
-/

namespace RowQuery

/-- A request for a page. -/
structure PageRequest where
  entity : String
  filter : Filter
  sort : SortOrder
  paging : PagingArguments
  /-- Whether the rows are to be counted too. -/
  totalCount : Bool

/-- Reads a request for a page; the paging arguments stand among its members. -/
def PageRequest.read? (v : Json.Value) : Option PageRequest := do
  let r ← v.record? true
  let entity ← r.required? "entity" Json.Value.text?
  let filter ← r.withDefault? "filter" .empty Filter.read?
  let sort ← r.withDefault? "sort" [] SortOrder.read?
  let paging ← PagingArguments.ofRecord? r
  let totalCount ← r.withDefault? "totalCount" false Json.Value.bool?
  return ⟨entity, filter, sort, paging, totalCount⟩

/-- Reads a request for a page from a text. As the paging arguments may be any of its members, each
is read, and only members of the sort fields are passed over. -/
def PageRequest.parse? (text : String) : Option PageRequest :=
  let form := Json.Reader.membersOf fun name =>
    some (if name = "sort" then SortOrder.form else Json.Reader.value)
  (Json.Value.parseAs? form text).bind read?

/-- A request for aggregates. -/
structure AggregateRequest where
  entity : String
  filter : Filter
  spec : Aggregate.Spec

/-- Reads a request for aggregates; what is to be computed stands among its members. -/
def AggregateRequest.read? (v : Json.Value) : Option AggregateRequest := do
  let r ← v.record? true
  let entity ← r.required? "entity" Json.Value.text?
  let filter ← r.withDefault? "filter" .empty Filter.read?
  let spec ← Aggregate.Spec.ofRecord? r
  return ⟨entity, filter, spec⟩

/-- Reads a request for aggregates from a text. -/
def AggregateRequest.parse? (text : String) : Option AggregateRequest :=
  (Json.Value.parse? text).bind read?

end RowQuery
