import RowQuery.Error
import RowQuery.Filter.Operator
import RowQuery.Filter.Value
import RowQuery.Text.Pattern
/-!
The built-in operators on values held in memory.

A comparison with null, or with a value of another kind, is false; only `is` and `isNot` see null.
-/

namespace RowQuery.Comparison

open RowQuery.Filter (Operator Value)

/-- Whether two values compare with an order that is wanted. -/
def ordered (wanted : Ordering → Bool) (actual expected : Json.Value) : Bool :=
  match actual.compare? expected with
  | some order => wanted order
  | none => false

/-- Compares with one scalar. -/
def holdsScalar (field : String) (op : Operator) (wanted : Ordering → Bool) (actual : Json.Value)
    (v : Value) : Except QueryError Bool :=
  if v.isScalar then .ok (ordered wanted actual v.toJson)
  else .error (.invalidValue field op.name .notScalar)

/-- Matches a pattern. A value that is no text matches neither a pattern nor its negation; with a
text the regular expression of the pattern must be built. -/
def holdsPattern (field : String) (op : Operator) (anyCase negated : Bool) (actual : Json.Value)
    (v : Value) : Except QueryError Bool :=
  match v.text? with
  | none => .error (.invalidValue field op.name .notPattern)
  | some pattern =>
    match actual.text? with
    | none => .ok false
    | some text =>
      match Pattern.regex anyCase pattern.toList with
      | .error fault => .error (.invalidValue field op.name (.ofRegex fault))
      | .ok regex => .ok (regex.isMatch text.toList != negated)

/-- Asks for null, true or false. -/
def holdsIdentity (field : String) (op : Operator) (negated : Bool) (actual : Json.Value) :
    Value → Except QueryError Bool
  | .null => .ok (actual.isNull != negated)
  | .bool b => .ok ((actual.bool? == some b) != negated)
  | _ => .error (.invalidValue field op.name .notBoolean)

/-- Looks a value up in a list. Null is in no list and outside of none. -/
def holdsMember (field : String) (op : Operator) (negated : Bool) (actual : Json.Value) :
    Value → Except QueryError Bool
  | .list [] => .error (.invalidValue field op.name .emptyArray)
  | .list items =>
    if actual.isNull then .ok false
    else .ok ((items.any fun v => ordered Ordering.isEq actual v.toJson) != negated)
  | _ => .error (.invalidValue field op.name .notArray)

/-- Compares with the two bounds of a range, both of which must compare. -/
def holdsBetween (field : String) (op : Operator) (negated : Bool) (actual : Json.Value) :
    Value → Except QueryError Bool
  | .range lower upper =>
    match actual.compare? lower.toJson, actual.compare? upper.toJson with
    | some l, some u => .ok ((l.isGE && u.isLE) != negated)
    | _, _ => .ok false
  | _ => .error (.invalidValue field op.name .notRange)

/-- Whether a stored value satisfies a built-in operator with its value. -/
def holds (field : String) (op : Operator) (actual : Json.Value) (v : Value) :
    Except QueryError Bool :=
  match op with
  | .eq => holdsScalar field op Ordering.isEq actual v
  | .neq => holdsScalar field op Ordering.isNe actual v
  | .gt => holdsScalar field op Ordering.isGT actual v
  | .gte => holdsScalar field op Ordering.isGE actual v
  | .lt => holdsScalar field op Ordering.isLT actual v
  | .lte => holdsScalar field op Ordering.isLE actual v
  | .like => holdsPattern field op false false actual v
  | .notLike => holdsPattern field op false true actual v
  | .iLike => holdsPattern field op true false actual v
  | .notILike => holdsPattern field op true true actual v
  | .is => holdsIdentity field op false actual v
  | .isNot => holdsIdentity field op true actual v
  | .in => holdsMember field op false actual v
  | .notIn => holdsMember field op true actual v
  | .between => holdsBetween field op false actual v
  | .notBetween => holdsBetween field op true actual v
  | .custom name => .error (.unknownOperator field name)

end RowQuery.Comparison
