import RowQuery.Aggregate.Response
import RowQuery.Request
import RowQuery.Store
/-!
Answering requests: compile, run on the store, put into the form of the answer.

What does not compile is refused before the store is asked.
-/

namespace RowQuery

/-- Why a request is not answered. -/
inductive ServiceError where
  | query (cause : QueryError)
  | execution (cause : ExecutionError)
  /-- The request is given up without an answer. -/
  | givenUp
  /-- A row has not the type that is wanted. -/
  | decode
deriving DecidableEq, Repr

/-- The text of an error. -/
def ServiceError.message : ServiceError → String
  | query cause => cause.message
  | execution _ => "query execution failed"
  | givenUp => ""
  | decode => "failed to decode result row"

/-- Why a request is not answered, from why its compiled form has no answer. -/
def ServiceError.ofNoAnswer : NoAnswer → ServiceError
  | .error cause => .execution cause
  | .givenUp => .givenUp

/-- A compiler with a store of rows. -/
structure Service where
  compiler : Compiler
  store : Store

namespace Service

/-- A compiled request, or why it does not compile. -/
def compiled {α : Type} (x : Except QueryError α) : Except ServiceError α := x.mapError .query

/-- The outcome of a compiled request, or why there is none. -/
def executed {α : Type} (x : Except NoAnswer α) : Except ServiceError α := x.mapError .ofNoAnswer

/-- Rows without paging. -/
def many (s : Service) (entity : String) (f : Filter) (sort : SortOrder) (limit : Option Nat)
    (offset : Nat) : Except ServiceError (List Json.Value) := do
  let q ← compiled (s.compiler.many entity f sort limit offset)
  executed (s.store.fetch q)

/-- The number of rows that satisfy a filter. -/
def count (s : Service) (entity : String) (f : Filter) : Except ServiceError Nat := do
  let q ← compiled (s.compiler.count entity f)
  (s.store.count q).mapError .execution

/-- A page. -/
def connection (s : Service) (r : PageRequest) : Except ServiceError (Connection Json.Value) := do
  let q ← compiled (s.compiler.page r.entity r.filter r.sort r.paging)
  let rows ← executed (s.store.fetch q.fetch)
  let page := q.plan.finish rows
  if r.totalCount then do
    let total ← s.count r.entity r.filter
    return { page with totalCount := some total }
  else return page

/-- A page of rows of a type. -/
def connectionAs {α : Type} (read : Json.Value → Option α) (s : Service) (r : PageRequest) :
    Except ServiceError (Connection α) := do
  let page ← s.connection r
  match page.mapM? read with
  | some typed => return typed
  | none => throw .decode

/-- The responses of result rows. -/
def responses : List Json.Row → Except QueryError (List Aggregate.Response)
  | [] => .ok []
  | row :: rest => do
    let r ← Aggregate.Response.ofRow row
    let rs ← responses rest
    return r :: rs

/-- Aggregates. -/
def aggregate (s : Service) (r : AggregateRequest) :
    Except ServiceError (List Aggregate.Response) := do
  let q ← compiled (s.compiler.aggregate r.entity r.filter r.spec)
  let rows ← executed (s.store.aggregate q)
  compiled (responses rows)

end Service
end RowQuery
