import RowQuery.Number.Shortest
/-!
Decimal notations: how a number is written, and how a decimal literal is read.
-/

namespace RowQuery

/-- The choices of a writer of numbers. -/
structure DecimalStyle where
  /-- The decimal taken when two shortest ones are equally near. -/
  tie : Tie
  /-- Whether a number whose first digit has this exponent is written without an exponent. -/
  positional : Int → Bool
  /-- What is written after the digits of a whole number. -/
  wholeMark : String

namespace DecimalStyle

/-- The notation of JSON text: positional from `0.00001` up to sixteen digits, at least one digit
after the point, ties to the even digit. -/
def json : DecimalStyle :=
  ⟨.toEven, fun e => decide (-5 ≤ e) && decide (e ≤ 15), ".0"⟩

/-- Plain notation: never an exponent, no point in a whole number, ties upward. -/
def plain : DecimalStyle := ⟨.up, fun _ => true, ""⟩

/-- The digits of a decimal with the point in place. -/
def positionalText (style : DecimalStyle) (d : Decimal) : String :=
  let digits := Nat.toDigits 10 d.digits
  if 0 ≤ d.exp then
    String.ofList (digits ++ List.replicate d.exp.toNat '0') ++ style.wholeMark
  else
    let places := (-d.exp).toNat
    let padded := List.replicate (places + 1 - digits.length) '0' ++ digits
    let whole := padded.take (padded.length - places)
    let fraction := padded.drop (padded.length - places)
    String.ofList whole ++ "." ++ String.ofList fraction

/-- The first digit, a point and the other digits if there are any, the exponent with its sign. -/
def exponentText (d : Decimal) : String :=
  let e := d.firstExponent
  let sign := if 0 ≤ e then "e+" else "e-"
  let digits := match Nat.toDigits 10 d.digits with
    | [] => ""
    | [c] => String.singleton c
    | c :: rest => String.ofList (c :: '.' :: rest)
  digits ++ sign ++ e.natAbs.repr

/-- The text of a number. -/
def text (style : DecimalStyle) (x : Binary64) : String :=
  let d := x.shortest style.tie
  let sign := if x.negative then "-" else ""
  sign ++ if style.positional d.firstExponent then style.positionalText d else exponentText d

end DecimalStyle
end RowQuery
