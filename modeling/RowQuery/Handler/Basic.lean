import RowQuery.Error
import RowQuery.Filter.Value
import RowQuery.Sql.Condition
/-!
Handlers of custom operators.

A handler turns a column and a value into an SQL test and, if it can, judges a stored value in
memory. Its configuration is JSON.
-/

namespace RowQuery

/-- What a handler says of a stored value. -/
inductive Verdict where
  | holds (b : Bool)
  /-- The handler has nothing to say of this value in memory. -/
  | undecided
  /-- The request is given up without an answer. -/
  | aborted
deriving DecidableEq, Repr

/-- A handler of a custom operator. -/
structure Handler where
  /-- The SQL test of a column with a value. -/
  test : Sql.Column → Filter.Value → Json.Value → Except Rejection Sql.Test
  /-- The verdict on a stored value. -/
  judge : Json.Value → Filter.Value → Json.Value → Verdict

end RowQuery
