import RowQuery.Catalog.Basic
import RowQuery.Error
import RowQuery.Filter.Operator
import RowQuery.Filter.Value
import RowQuery.Sql.Condition
/-!
The SQL tests of the built-in operators.

Every scalar is bound. A text compared with a date, a time, a number, an identifier or a JSON column
is cast to the type of the column, since the database would not compare the two otherwise; patterns
are not cast. `is` and `isNot` bind nothing.
-/

namespace RowQuery.Comparison

open RowQuery.Filter (Operator Value)

/-- The column that a comparison is about, with its declared type. -/
structure Subject where
  column : Sql.Column
  type : Option ColumnType

/-- The type that texts are cast to when they meet a column. -/
def castTarget? : ColumnType → Option String
  | .date => some "date"
  | .timestamp => some "timestamp"
  | .timestamptz => some "timestamptz"
  | .uuid => some "uuid"
  | .decimal => some "numeric"
  | .json | .jsonb => some "jsonb"
  | .integer | .bigint | .float | .text | .varchar | .boolean => none

/-- The bound value of a scalar. -/
def param? : Value → Option Sql.Param
  | .null => some .null
  | .bool b => some (.bool b)
  | .int i => some (.int i)
  | .float x => some (.float x)
  | .str s => some (.text s)
  | .list _ | .range _ _ => none

/-- The cast of a bound value that meets the subject. -/
def Subject.cast? (s : Subject) : Sql.Param → Option String
  | .text _ => s.type.bind castTarget?
  | .null | .bool _ | .int _ | .float _ => none

/-- The bound scalar of a comparison. -/
def scalar (s : Subject) (op : Operator) (v : Value) : Except QueryError Sql.Bound :=
  match param? v with
  | some p => .ok ⟨p, s.cast? p⟩
  | none => .error (.invalidValue s.column.name op.name .notScalar)

/-- The bound scalars of a list. -/
def scalars (s : Subject) (op : Operator) : List Value → Except QueryError (List Sql.Bound)
  | [] => .ok []
  | v :: rest => do
    let b ← scalar s op v
    let bs ← scalars s op rest
    return b :: bs

/-- The bound members of a list that must not be empty. -/
def members (s : Subject) (op : Operator) : Value → Except QueryError (List Sql.Bound)
  | .list [] => .error (.invalidValue s.column.name op.name .emptyArray)
  | .list items => scalars s op items
  | _ => .error (.invalidValue s.column.name op.name .notArray)

/-- The two bounds of a range. -/
def bounds (s : Subject) (op : Operator) : Value → Except QueryError (Sql.Bound × Sql.Bound)
  | .range lower upper => do
    let l ← scalar s op lower
    let u ← scalar s op upper
    return (l, u)
  | _ => .error (.invalidValue s.column.name op.name .notRange)

/-- The test of a pattern. -/
def patternTest (s : Subject) (op : Operator) (c : Sql.Comparator) (v : Value) :
    Except QueryError Sql.Test :=
  match v.text? with
  | some p => .ok (.compare c s.column ⟨.text p, none⟩)
  | none => .error (.invalidValue s.column.name op.name .notPattern)

/-- The test of a comparison with one scalar. -/
def scalarTest (s : Subject) (op : Operator) (c : Sql.Comparator) (v : Value) :
    Except QueryError Sql.Test :=
  (scalar s op v).map (.compare c s.column)

/-- The test for null, true or false. -/
def identityTest (s : Subject) (op : Operator) (negated : Bool) : Value → Except QueryError Sql.Test
  | .null => .ok (.isNull negated s.column)
  | .bool b => .ok (.isBool negated s.column b)
  | _ => .error (.invalidValue s.column.name op.name .notBoolean)

/-- The SQL test of a built-in operator with its value. -/
def test (s : Subject) (op : Operator) (v : Value) : Except QueryError Sql.Test :=
  match op with
  | .eq => scalarTest s op .eq v
  | .neq => scalarTest s op .ne v
  | .gt => scalarTest s op .gt v
  | .gte => scalarTest s op .ge v
  | .lt => scalarTest s op .lt v
  | .lte => scalarTest s op .le v
  | .like => patternTest s op .like v
  | .notLike => patternTest s op .notLike v
  | .iLike => patternTest s op .ilike v
  | .notILike => patternTest s op .notIlike v
  | .is => identityTest s op false v
  | .isNot => identityTest s op true v
  | .in => (members s op v).map (.inList false s.column)
  | .notIn => (members s op v).map (.inList true s.column)
  | .between => (bounds s op v).map fun b => .between false s.column b.1 b.2
  | .notBetween => (bounds s op v).map fun b => .between true s.column b.1 b.2
  | .custom name => .error (.unknownOperator s.column.name name)

end RowQuery.Comparison
