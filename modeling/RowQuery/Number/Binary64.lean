/-!
Finite binary floating point numbers of 64 bits, as exact integers over one unit.

Every finite number is a whole multiple of `2 ^ (-1074)`, so a number is a sign, a significand below
`2 ^ 53` and a power of two that counts such units. Order, sums, products, quotients and remainders
are taken on exact integers and rounded once, to the nearest number and on a tie to the even
significand. A result too large for a finite number is `none`.

Powers and zero of numbers are those of core. A library may have instances of its own for them;
where both are in scope the two here come first, so that a power and a sum mean the same wherever
they are written.
-/

namespace RowQuery

@[default_instance 20000]
instance (priority := 1100) powOfNatPow {α : Type} [NatPow α] : Pow α Nat := instPowNat

instance (priority := 1100) zeroNat : Zero Nat := Zero.ofOfNat0

/-- Significand and exponent are the ones a number is stored with: below the smallest normal number
the exponent stays `0`, above it the significand has all its 53 bits. -/
def Binary64.Normal (mant exp : Nat) : Prop :=
  mant < 2 ^ 53 ∧ (exp = 0 ∨ 2 ^ 52 ≤ mant) ∧ exp ≤ 2045

instance (mant exp : Nat) : Decidable (Binary64.Normal mant exp) := by
  unfold Binary64.Normal; infer_instance

/-- A finite number: `mant * 2 ^ exp` units of `2 ^ (-1074)`, with a sign that zero has too. -/
structure Binary64 where
  negative : Bool
  mant : Nat
  exp : Nat
  normal : Binary64.Normal mant exp
deriving DecidableEq

namespace Binary64

/-- How many units of `2 ^ (-1074)` make one. -/
def unitsPerOne : Nat := 2 ^ 1074

/-- The magnitude in units. -/
def magnitude (x : Binary64) : Nat := x.mant * 2 ^ x.exp

/-- The signed value in units. -/
def units (x : Binary64) : Int := if x.negative then -(x.magnitude : Int) else x.magnitude

/-- Zero with the given sign. -/
def zero (negative : Bool) : Binary64 := ⟨negative, 0, 0, by decide⟩

instance : Inhabited Binary64 := ⟨zero false⟩

/-- The number with these parts, if there is one. -/
def ofParts? (negative : Bool) (mant exp : Nat) : Option Binary64 :=
  if h : Normal mant exp then some ⟨negative, mant, exp, h⟩ else none

/-- The quotient rounded to the nearest natural number, a tie to the even one. -/
def roundDiv (num den : Nat) : Nat :=
  let q := num / den
  let r := num % den
  if den < 2 * r ∨ (den = 2 * r ∧ q % 2 = 1) then q + 1 else q

/-- The number nearest to `num / den` units; `none` when that is beyond the largest one. -/
def ofUnits? (negative : Bool) (num den : Nat) : Option Binary64 :=
  let exp := (num / den).log2 - 52
  let mant := roundDiv num (den * 2 ^ exp)
  if mant = 2 ^ 53 then ofParts? negative (2 ^ 52) (exp + 1) else ofParts? negative mant exp

/-- The number nearest to the fraction `num / den`. -/
def ofRatio? (negative : Bool) (num den : Nat) : Option Binary64 :=
  ofUnits? negative (num * unitsPerOne) den

/-- The number nearest to an integer. -/
def ofInt? (i : Int) : Option Binary64 :=
  ofRatio? (decide (i < 0)) i.natAbs 1

/-- The number nearest to `digits * 10 ^ exp`. Far out of range no power of ten is computed: a
result beyond `10 ^ 310` has no finite number near it, one below `10 ^ (-400)` rounds to zero. -/
def ofDecimal? (negative : Bool) (digits : Nat) (exp : Int) : Option Binary64 :=
  let size := exp + (Nat.toDigits 10 digits).length
  if digits = 0 ∨ size < -400 then some (zero negative)
  else if 310 < size then none
  else ofRatio? negative (digits * 10 ^ exp.toNat) (10 ^ (-exp).toNat)

/-- Order by value; the two zeros are equal. -/
def compare (x y : Binary64) : Ordering := Ord.compare x.units y.units

/-- Whether the value is zero, of either sign. -/
def isZero (x : Binary64) : Bool := x.mant == 0

/-- The rounded sum. A zero sum is negative only if both summands are. -/
def add? (x y : Binary64) : Option Binary64 :=
  let sum := x.units + y.units
  if sum = 0 then some (zero (x.negative && y.negative))
  else ofUnits? (decide (sum < 0)) sum.natAbs 1

/-- The rounded quotient by a positive count. -/
def divNat? (x : Binary64) (n : Nat) : Option Binary64 :=
  ofUnits? x.negative x.magnitude n

/-- The rounded product. -/
def mul? (x y : Binary64) : Option Binary64 :=
  ofUnits? (x.negative != y.negative) (x.magnitude * y.magnitude) unitsPerOne

/-- The rounded quotient by a number other than zero. -/
def div? (x y : Binary64) : Option Binary64 :=
  ofUnits? (x.negative != y.negative) (x.magnitude * unitsPerOne) y.magnitude

/-- The number nearest to a power of ten. -/
def powerOfTen? (n : Nat) : Option Binary64 := ofDecimal? false 1 n

/-- Whether the remainder of a division truncated toward zero is smaller than `2 ^ (-52)` in
magnitude. The remainder of two numbers is itself a number, so nothing is rounded. -/
def remainderNegligible (x y : Binary64) : Bool :=
  decide (x.magnitude % y.magnitude < 2 ^ 1022)

/-- Equality of values: the two zeros are one. -/
def sameValue (x y : Binary64) : Bool := x.units == y.units

end Binary64
end RowQuery
