import RowQuery.Json.Value
/-!
The numbers of JSON literals.

A literal of digits alone is an integer where 64 bits hold it. Every other literal is a float,
scaled step by step: as many leading digits as 64 bits hold make a float, and it is multiplied or
divided by powers of ten that are floats themselves. Every step rounds, so a literal with more than
15 digits or with a large exponent may give a neighbour of the nearest float.
-/

namespace RowQuery.Json

/-- The digits of a number after a possible sign. -/
structure Literal where
  whole : List Char
  /-- The digits after the point. -/
  fraction : List Char
  exponent : Option Int

namespace Literal

/-- A number followed by as many digits as 64 bits hold, and the digits left after them. -/
def leading (n : Nat) : List Char → Nat × List Char
  | [] => (n, [])
  | c :: rest =>
    let longer := Nat.ofDigitChars 10 [c] n
    if longer ≤ maxUInt64 then leading longer rest else (n, c :: rest)

/-- The float `x * 10 ^ exp`. A power of ten beyond the floats makes the product too large, and a
quotient by two of them is zero. -/
def scaled? (x : Binary64) (exp : Int) : Option Binary64 :=
  if x.isZero then some x
  else if 0 ≤ exp then do x.mul? (← Binary64.powerOfTen? exp.toNat)
  else if -308 ≤ exp then do x.div? (← Binary64.powerOfTen? (-exp).toNat)
  else if -616 ≤ exp then do
    let y ← x.div? (← Binary64.powerOfTen? 308)
    y.div? (← Binary64.powerOfTen? (-exp - 308).toNat)
  else some (.zero x.negative)

/-- The float of a literal, none if it is too large. -/
def float? (l : Literal) (negative : Bool) : Option Binary64 := do
  let (n, skipped) := leading 0 l.whole
  let (n, ignored) := leading n l.fraction
  let places : Int := l.fraction.length - ignored.length
  scaled? (← Binary64.ofRatio? negative n 1) (l.exponent.getD 0 + skipped.length - places)

/-- The integer of a literal that is one; minus zero is no integer. -/
def int? (l : Literal) (negative : Bool) : Option Int :=
  let magnitude := Nat.ofDigitChars 10 l.whole 0
  if !l.fraction.isEmpty || l.exponent.isSome then none
  else if negative then
    if magnitude ≠ 0 ∧ magnitude ≤ 2 ^ 63 then some (-(magnitude : Int)) else none
  else if magnitude ≤ maxUInt64 then some magnitude
  else none

/-- The number of a literal, none if it is too large for a float. -/
def number? (l : Literal) (negative : Bool) : Option Number :=
  match l.int? negative with
  | some i => some (.int i)
  | none => (l.float? negative).map .float

end Literal
end RowQuery.Json
