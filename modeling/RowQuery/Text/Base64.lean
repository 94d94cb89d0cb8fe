/-!
Base64 with the standard alphabet, padded.

Three bytes become four symbols; one or two bytes at the end become a group closed by `=`. Reading
accepts exactly what writing produces: padding is required, and the bits that the last symbol of a
padded group has to spare must be zero.
-/

namespace RowQuery.Base64

/-- The symbol of a six-bit number. -/
def symbol (n : Nat) : Char :=
  if n < 26 then Char.ofNat (65 + n)
  else if n < 52 then Char.ofNat (71 + n)
  else if n < 62 then Char.ofNat (n - 4)
  else if n = 62 then '+' else '/'

/-- The number of a symbol. -/
def sextet? (c : Char) : Option Nat :=
  let n := c.toNat
  if 65 ≤ n ∧ n ≤ 90 then some (n - 65)
  else if 97 ≤ n ∧ n ≤ 122 then some (n - 71)
  else if 48 ≤ n ∧ n ≤ 57 then some (n + 4)
  else if c = '+' then some 62
  else if c = '/' then some 63
  else none

/-- The symbols of some bytes. -/
def encode : List UInt8 → List Char
  | [] => []
  | [a] =>
    [symbol (a.toNat / 4), symbol (a.toNat % 4 * 16), '=', '=']
  | [a, b] =>
    [symbol (a.toNat / 4), symbol (a.toNat % 4 * 16 + b.toNat / 16), symbol (b.toNat % 16 * 4), '=']
  | a :: b :: c :: rest =>
    symbol (a.toNat / 4) :: symbol (a.toNat % 4 * 16 + b.toNat / 16)
      :: symbol (b.toNat % 16 * 4 + c.toNat / 64) :: symbol (c.toNat % 64) :: encode rest

/-- The bytes of a closing group `ab==` or `abc=`. -/
def closing? (a b c : Char) : Option (List UInt8) := do
  let x ← sextet? a
  let y ← sextet? b
  let first := UInt8.ofNat (x * 4 + y / 16)
  if c = '=' then
    if y % 16 = 0 then some [first] else none
  else do
    let z ← sextet? c
    if z % 4 = 0 then some [first, UInt8.ofNat (y % 16 * 16 + z / 4)] else none

/-- The three bytes of a full group. -/
def full? (a b c d : Char) : Option (List UInt8) := do
  let x ← sextet? a
  let y ← sextet? b
  let z ← sextet? c
  let w ← sextet? d
  some [UInt8.ofNat (x * 4 + y / 16), UInt8.ofNat (y % 16 * 16 + z / 4),
    UInt8.ofNat (z % 4 * 64 + w)]

/-- The bytes of a text of symbols; `none` if it is not one that `encode` writes. -/
def decode? : List Char → Option (List UInt8)
  | [] => some []
  | a :: b :: c :: d :: rest =>
    if d = '=' then
      if rest.isEmpty then closing? a b c else none
    else do
      let bytes ← full? a b c d
      let more ← decode? rest
      some (bytes ++ more)
  | _ => none

end RowQuery.Base64
