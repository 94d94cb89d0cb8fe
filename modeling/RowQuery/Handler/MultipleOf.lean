import RowQuery.Handler.Basic
import RowQuery.Number.Notation
/-!
The handler `is_multiple_of`: divisibility of numbers.

In SQL both numbers are taken as decimals. In memory two integers are divided exactly; otherwise the
shortest decimals of the two are divided, as long as they fit 128 bits once they have one scale, and
beyond that the remainder of the floats has to be negligible.
-/

namespace RowQuery.MultipleOf

/-- Whether an integer fits in 128 signed bits. -/
def fitsInt128 (i : Int) : Bool := decide (-(2 ^ 127) ≤ i) && decide (i < 2 ^ 127)

/-- The integer, if it fits in 128 signed bits. -/
def int128? (i : Int) : Option Int := if fitsInt128 i then some i else none

/-- The shortest decimal of a number as digits and a count of decimal places. -/
def decimalParts? (x : Binary64) : Option (Int × Nat) :=
  let d := x.shortest DecimalStyle.plain.tie
  let digits : Int := (d.digits * 10 ^ d.exp.toNat : Nat)
  (int128? (if x.negative then -digits else digits)).map fun i => (i, (-d.exp).toNat)

/-- An integer moved up by some decimal places. -/
def scaled? (i : Int) (places : Nat) : Option Int := do
  let power ← int128? (10 ^ places : Nat)
  int128? (i * power)

/-- Whether one number is a whole multiple of the other, both taken as their shortest decimals. -/
def decimalMultiple? (x y : Binary64) : Option Bool := do
  let (a, s) ← decimalParts? x
  let (b, t) ← decimalParts? y
  let a ← scaled? a (max s t - s)
  let b ← scaled? b (max s t - t)
  return b != 0 && a.tmod b == 0

/-- The divisor to bind. -/
def divisor (v : Filter.Value) : Except Rejection Sql.Param :=
  match v with
  | .int i => if i = 0 then .error .zeroDivisor else .ok (.int i)
  | .float x => if x.isZero then .error .zeroDivisor else .ok (.float x)
  | .null | .bool _ | .str _ | .list _ | .range _ _ => .error .notNumeric

/-- Whether a stored value is a multiple of a divisor that is not zero. -/
def divides (v : Filter.Value) (y : Binary64) (actual : Json.Value) : Bool :=
  match actual.int64?, v with
  | some n, .int d => n.tmod d == 0
  | _, _ =>
    match actual.binary64? with
    | none => false
    | some x => (decimalMultiple? x y).getD (x.remainderNegligible y)

/-- The handler. -/
def handler : Handler where
  test column v _ := do
    let d ← divisor v
    return .custom "MOD(CAST("
      [(.column column, " AS NUMERIC), CAST("), (.bound ⟨d, none⟩, " AS NUMERIC)) = 0")]
  judge actual v _ :=
    match v.binary64? with
    | none => .undecided
    | some y => .holds (!y.isZero && divides v y actual)

end RowQuery.MultipleOf
