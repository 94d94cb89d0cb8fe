/-!
The operators of comparisons.

Sixteen names are built in; every other name is a custom operator, for which a handler must be
registered.
-/

namespace RowQuery.Filter

/-- An operator. -/
inductive Operator where
  | eq
  | neq
  | gt
  | gte
  | lt
  | lte
  | like
  | notLike
  | iLike
  | notILike
  | is
  | isNot
  | in
  | notIn
  | between
  | notBetween
  | custom (name : String)
deriving DecidableEq, Repr

namespace Operator

/-- The built-in operators. -/
def builtIn : List Operator :=
  [.eq, .neq, .gt, .gte, .lt, .lte, .like, .notLike, .iLike, .notILike, .is, .isNot, .in, .notIn,
    .between, .notBetween]

/-- The name of an operator in a filter. -/
def name : Operator → String
  | .eq => "eq"
  | .neq => "neq"
  | .gt => "gt"
  | .gte => "gte"
  | .lt => "lt"
  | .lte => "lte"
  | .like => "like"
  | .notLike => "notLike"
  | .iLike => "iLike"
  | .notILike => "notILike"
  | .is => "is"
  | .isNot => "isNot"
  | .in => "in"
  | .notIn => "notIn"
  | .between => "between"
  | .notBetween => "notBetween"
  | .custom name => name

/-- The operator of a name. -/
def ofName (name : String) : Operator :=
  (builtIn.find? fun op => op.name == name).getD (.custom name)

/-- Whether the operator needs a handler. -/
def isCustom : Operator → Bool
  | .custom _ => true
  | _ => false

end Operator
end RowQuery.Filter
