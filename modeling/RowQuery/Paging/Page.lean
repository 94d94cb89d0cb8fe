import RowQuery.Json.Selection
import RowQuery.Paging.Cursor
/-!
Paging arguments and the page they ask for.

There are three styles: a number of rows after a cursor, a number of rows before a cursor, and a
limit with an offset. Arguments of two styles are refused before anything else is looked at.
-/

namespace RowQuery

/-- The arguments of a request that choose a page. -/
structure PagingArguments where
  first : Option Int
  after : Option String
  last : Option Int
  before : Option String
  limit : Option Int
  offset : Option Int
deriving DecidableEq

namespace PagingArguments

/-- No argument at all. -/
def none : PagingArguments := ⟨.none, .none, .none, .none, .none, .none⟩

/-- The first rows. -/
def ofFirst (n : Int) : PagingArguments := { none with first := some n }

/-- The last rows. -/
def ofLast (n : Int) : PagingArguments := { none with last := some n }

/-- A number of rows from an offset. -/
def ofLimit (limit offset : Int) : PagingArguments :=
  { none with limit := some limit, offset := some offset }

/-- The rows after a cursor. -/
def withAfter (a : PagingArguments) (cursor : String) : PagingArguments :=
  { a with after := some cursor }

/-- The rows before a cursor. -/
def withBefore (a : PagingArguments) (cursor : String) : PagingArguments :=
  { a with before := some cursor }

/-- The arguments among the members of a record. -/
def ofRecord? (r : Json.Record) : Option PagingArguments := do
  let first ← r.nullable? "first" Json.Value.int64?
  let after ← r.nullable? "after" Json.Value.text?
  let last ← r.nullable? "last" Json.Value.int64?
  let before ← r.nullable? "before" Json.Value.text?
  let limit ← r.nullable? "limit" Json.Value.int64?
  let offset ← r.nullable? "offset" Json.Value.int64?
  return ⟨first, after, last, before, limit, offset⟩

/-- The names of the arguments, in the order in which an array gives them. -/
def memberNames : List String := ["first", "after", "last", "before", "limit", "offset"]

/-- Reads the arguments from their JSON form. -/
def read? (v : Json.Value) : Option PagingArguments := do
  ofRecord? (← v.recordOf? true memberNames)

/-- Reads the arguments from a text. -/
def parse? (text : String) : Option PagingArguments :=
  (Json.Value.parseAs? (Json.Reader.membersNamed memberNames) text).bind read?

/-- A member that is there. -/
def member (name : String) (v : Option Json.Value) : List (String × Json.Value) :=
  (v.map fun v => (name, v)).toList

/-- The JSON form: the arguments that are given. -/
def toJson (a : PagingArguments) : Json.Value :=
  .obj (member "after" (a.after.map .str) ++ member "before" (a.before.map .str)
    ++ member "first" (a.first.map .int) ++ member "last" (a.last.map .int)
    ++ member "limit" (a.limit.map .int) ++ member "offset" (a.offset.map .int))

/-- Whether a limit or an offset is given. -/
def usesOffset (a : PagingArguments) : Bool := a.limit.isSome || a.offset.isSome

/-- Whether an argument of the cursor styles is given. -/
def usesCursor (a : PagingArguments) : Bool :=
  a.first.isSome || a.last.isSome || a.after.isSome || a.before.isSome

/-- Which two styles are mixed, if two are. -/
def mixture? (a : PagingArguments) : Option PagingFault :=
  if a.usesOffset && a.usesCursor then some .mixedStyles
  else if a.first.isSome && a.last.isSome then some .firstAndLast
  else if a.first.isSome && a.before.isSome then some .firstWithBefore
  else if a.last.isSome && a.after.isSome then some .lastWithAfter
  else if a.after.isSome && a.before.isSome then some .afterAndBefore
  else .none

end PagingArguments

/-- How many rows a page may have. -/
structure PagingPolicy where
  /-- The size of a page that names none. -/
  defaultSize : Nat
  /-- The largest size, if there is one. -/
  maxSize : Option Nat
deriving DecidableEq

namespace PagingPolicy

/-- Ten rows, and a hundred at most. -/
def standard : PagingPolicy := ⟨10, some 100⟩

/-- A size within the policy. -/
def check (p : PagingPolicy) (size : Nat) : Except QueryError Nat :=
  match p.maxSize with
  | none => .ok size
  | some max => if size ≤ max then .ok size else .error (.pageSizeExceeded size max)

end PagingPolicy

/-- A page of a result. -/
inductive Page where
  /-- The first rows, after a cursor if there is one. -/
  | forward (size : Nat) (after : Option Cursor)
  /-- The last rows, before a cursor if there is one. -/
  | backward (size : Nat) (before : Option Cursor)
  /-- A number of rows from an offset. -/
  | window (limit offset : Nat)

namespace Page

/-- A count that is given and must not be negative, or its default. -/
def count (name : String) (default : Nat) : Option Int → Except QueryError Nat
  | none => .ok default
  | some n => if n < 0 then .error (.paging (.negative name)) else .ok n.toNat

/-- The cursor of an optional text. -/
def cursor? : Option String → Except QueryError (Option Cursor)
  | none => .ok none
  | some text => match Cursor.decode text with
    | .ok c => .ok (some c)
    | .error fault => .error (.cursor fault)

/-- The page of arguments that are all of one style. -/
def ofStyle (a : PagingArguments) (policy : PagingPolicy) : Except QueryError Page :=
  if a.usesOffset then do
    let limit ← count "limit" policy.defaultSize a.limit
    let offset ← count "offset" 0 a.offset
    let limit ← policy.check limit
    return .window limit offset
  else if a.last.isSome || a.before.isSome then do
    let last ← count "last" policy.defaultSize a.last
    let before ← cursor? a.before
    let last ← policy.check last
    return .backward last before
  else do
    let first ← count "first" policy.defaultSize a.first
    let after ← cursor? a.after
    let first ← policy.check first
    return .forward first after

/-- The page that arguments ask for under a policy. -/
def ofArguments (a : PagingArguments) (policy : PagingPolicy) : Except QueryError Page :=
  match a.mixture? with
  | some fault => .error (.paging fault)
  | none => ofStyle a policy

/-- The number of rows asked for. -/
def size : Page → Nat
  | forward size _ => size
  | backward size _ => size
  | window limit _ => limit

/-- Whether the page is one of limit and offset. -/
def isWindow : Page → Bool
  | window _ _ => true
  | forward _ _ | backward _ _ => false

end Page
end RowQuery
