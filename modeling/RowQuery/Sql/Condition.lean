import RowQuery.Number.Binary64
/-!
Conditions of a statement, as trees.

A test asks one thing of one column. Conditions join tests by AND and OR; a group is a condition in
brackets of its own. How they are joined does not depend on what a test is, so the tree may have
leaves of any kind. The text of a condition is in `RowQuery.Sql.Text`.
-/

namespace RowQuery.Sql

/-- A value bound to a placeholder. -/
inductive Param where
  | null
  | bool (b : Bool)
  | int (i : Int)
  | float (x : Binary64)
  | text (s : String)
deriving DecidableEq

/-- A column of a table known by an alias. -/
structure Column where
  table : String
  name : String
deriving DecidableEq

/-- A bound value, cast to a type where the database would not convert it on its own. -/
structure Bound where
  value : Param
  cast : Option String
deriving DecidableEq

/-- The comparisons of a column with one value. -/
inductive Comparator where
  | eq
  | ne
  | gt
  | ge
  | lt
  | le
  | like
  | notLike
  | ilike
  | notIlike
deriving DecidableEq, Repr

/-- What stands between the fixed texts of a custom test. -/
inductive Operand where
  | column (c : Column)
  | bound (b : Bound)
deriving DecidableEq

/-- A test of one column. -/
inductive Test where
  | compare (op : Comparator) (column : Column) (value : Bound)
  | inList (negated : Bool) (column : Column) (values : List Bound)
  | between (negated : Bool) (column : Column) (lower upper : Bound)
  | isNull (negated : Bool) (column : Column)
  | isBool (negated : Bool) (column : Column) (b : Bool)
  | custom (head : String) (rest : List (Operand × String))
deriving DecidableEq

/-- Leaves joined by AND and OR. `all` and `any` have two members at least. -/
inductive Tree (τ : Type) where
  | test (t : τ)
  | group (c : Tree τ)
  | all (cs : List (Tree τ))
  | any (cs : List (Tree τ))

/-- A condition: tests joined by AND and OR. -/
abbrev Condition := Tree Test

namespace Tree

variable {τ : Type}

/-- The tree in brackets; brackets around brackets are left out. -/
def bracket : Tree τ → Tree τ
  | .group c => .group c
  | c => .group c

/-- All of some trees; none of an empty list. -/
def all? : List (Tree τ) → Option (Tree τ)
  | [] => none
  | [c] => some c
  | cs => some (.all cs)

/-- One of some trees; none of an empty list. -/
def any? : List (Tree τ) → Option (Tree τ)
  | [] => none
  | [c] => some c
  | cs => some (.any cs)

end Tree
end RowQuery.Sql
