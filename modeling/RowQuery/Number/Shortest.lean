import RowQuery.Number.Binary64
/-!
The shortest decimal digits of a number.

The reals that round to a number form an interval around it. On the grid of decimals with one
significant digit, then two, and so on up to seventeen, the two grid points next to the number are
tried; the first grid with a point in the interval wins, and of two points the nearer. When both are
equally near, the writer that asks decides.
-/

namespace RowQuery

/-- Which of two equally near decimals is taken. -/
inductive Tie where
  | toEven
  | up
deriving DecidableEq, Repr

/-- The magnitude `digits * 10 ^ exp`. -/
structure Decimal where
  digits : Nat
  exp : Int
deriving DecidableEq, Repr

namespace Decimal

/-- Drops trailing zero digits, at most `fuel` of them. -/
def trim : Nat → Decimal → Decimal
  | 0, d => d
  | fuel + 1, d =>
    if d.digits ≠ 0 ∧ d.digits % 10 = 0 then trim fuel ⟨d.digits / 10, d.exp + 1⟩ else d

/-- The exponent of the first digit; `0` for zero. -/
def firstExponent (d : Decimal) : Int :=
  if d.digits = 0 then 0 else d.exp + ((Nat.toDigits 10 d.digits).length - 1 : Nat)

end Decimal

namespace Binary64

/-- The reals that round to a number, in quarters of a unit: `low` and `high` belong to it if the
significand is even. Below a power of two the neighbour is half as far away. -/
structure Interval where
  low : Nat
  value : Nat
  high : Nat
  closed : Bool

/-- The interval of a number. -/
def interval (x : Binary64) : Interval where
  low := (4 * x.mant - if x.mant = 2 ^ 52 ∧ x.exp ≠ 0 then 1 else 2) * 2 ^ x.exp
  value := 4 * x.mant * 2 ^ x.exp
  high := (4 * x.mant + 2) * 2 ^ x.exp
  closed := x.mant % 2 = 0

/-- A decimal grid: the real `v` quarters lies at `v * scale / step` grid points. -/
structure Grid where
  exp : Int
  scale : Nat
  step : Nat

/-- The grid of multiples of `10 ^ exp`. -/
def Grid.ofExponent (exp : Int) : Grid where
  exp := exp
  scale := 10 ^ (-exp).toNat
  step := 4 * unitsPerOne * 10 ^ exp.toNat

/-- Whether a grid point lies in the interval. -/
def Grid.hits (g : Grid) (i : Interval) (point : Nat) : Bool :=
  if i.closed then
    decide (i.low * g.scale ≤ point * g.step) && decide (point * g.step ≤ i.high * g.scale)
  else
    decide (i.low * g.scale < point * g.step) && decide (point * g.step < i.high * g.scale)

/-- The grid point nearest to the value, of its two neighbours that lie in the interval. -/
def Grid.nearest? (g : Grid) (tie : Tie) (i : Interval) : Option Nat :=
  let below := i.value * g.scale / g.step
  let rest := i.value * g.scale % g.step
  match g.hits i below, g.hits i (below + 1) with
  | false, false => none
  | true, false => some below
  | false, true => some (below + 1)
  | true, true =>
    if 2 * rest < g.step then some below
    else if g.step < 2 * rest then some (below + 1)
    else match tie with
      | .up => some (below + 1)
      | .toEven => some (if below % 2 = 0 then below else below + 1)

/-- The exponent of the first decimal digit of a magnitude that is not zero. The binary logarithm
gives it up to one. -/
def decimalExponent (x : Binary64) : Int :=
  let estimate : Int := (((x.magnitude.log2 : Int) - 1074) * 30103).fdiv 100000
  let next := Grid.ofExponent (estimate + 1)
  if next.step ≤ x.interval.value * next.scale then estimate + 1 else estimate

/-- Tries the grids from `exp` downwards. -/
def search (tie : Tie) (i : Interval) : Nat → Int → Decimal
  | 0, exp => ⟨i.value * (Grid.ofExponent exp).scale / (Grid.ofExponent exp).step, exp⟩
  | fuel + 1, exp =>
    match (Grid.ofExponent exp).nearest? tie i with
    | some point => ⟨point, exp⟩
    | none => search tie i fuel (exp - 1)

/-- The shortest decimal that reads back as the magnitude, without trailing zeros. -/
def shortest (tie : Tie) (x : Binary64) : Decimal :=
  if x.mant = 0 then ⟨0, 0⟩
  else (search tie x.interval 17 x.decimalExponent).trim 17

end Binary64
end RowQuery
