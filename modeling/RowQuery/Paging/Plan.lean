import RowQuery.Paging.Seek
import RowQuery.Paging.Window
/-!
Plans: how the rows of a page are fetched and made into a connection.
-/

namespace RowQuery

/-- A plan for a page. -/
inductive PagePlan where
  | window (p : WindowPlan)
  | seek (p : SeekPlan)

namespace PagePlan

/-- The name of the method. -/
def method : PagePlan → String
  | window _ => "offset"
  | seek _ => "keyset"

/-- The number of rows to fetch. -/
def fetchLimit : PagePlan → Nat
  | window p => p.fetchLimit
  | seek p => p.fetchLimit

/-- The number of rows to skip. -/
def fetchOffset : PagePlan → Nat
  | window p => p.start
  | seek _ => 0

/-- The page of the rows that were fetched. -/
def finish : PagePlan → List Json.Value → Connection Json.Value
  | window p => p.finish
  | seek p => p.finish

end PagePlan
end RowQuery
