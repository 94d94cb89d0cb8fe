/-!
Characters: white space, runs of code points, hexadecimal digits, and texts as bytes in UTF-8.
-/

namespace RowQuery

/-- White space: the characters with Unicode's property `White_Space`. -/
def isBlank (c : Char) : Bool :=
  let n := c.toNat
  (9 ≤ n && n ≤ 13) || n == 0x20 || n == 0x85 || n == 0xA0 || n == 0x1680
    || (0x2000 ≤ n && n ≤ 0x200A) || n == 0x2028 || n == 0x2029 || n == 0x202F || n == 0x205F
    || n == 0x3000

/-- The text without the blanks at its two ends. -/
def trimBlanks (s : List Char) : List Char :=
  ((s.dropWhile isBlank).reverse.dropWhile isBlank).reverse

namespace CodeRange

/-- Whether a code point lies in one of some runs, each given by its first and its last one. -/
def isIn (runs : List (Nat × Nat)) (code : Nat) : Bool :=
  runs.any fun r => decide (r.1 ≤ code) && decide (code ≤ r.2)

end CodeRange

namespace Hex

/-- The value of a digit, in either case. -/
def value? (c : Char) : Option Nat :=
  if '0' ≤ c ∧ c ≤ '9' then some (c.toNat - 48)
  else if 'a' ≤ c ∧ c ≤ 'f' then some (c.toNat - 87)
  else if 'A' ≤ c ∧ c ≤ 'F' then some (c.toNat - 55)
  else none

/-- The digit of a value, in small letters. -/
def digit (n : Nat) : Char := if n < 10 then Char.ofNat (48 + n) else Char.ofNat (87 + n)

/-- A digit reads back. -/
theorem value?_digit {n : Nat} (h : n < 16) : value? (digit n) = some n := by
  revert n; decide

/-- The number of some digits, the highest first. -/
def number? (sofar : Nat) : List Char → Option Nat
  | [] => some sofar
  | c :: rest => (value? c).bind fun d => number? (16 * sofar + d) rest

end Hex

namespace Utf8

/-- The bytes of a text. -/
def encode (s : List Char) : List UInt8 := s.flatMap String.utf8EncodeChar

/-- The text of some bytes, if they are one. -/
def decode? (bytes : List UInt8) : Option (List Char) :=
  bytes.toByteArray.utf8Decode?.map Array.toList

/-- What is written reads back. -/
theorem decode?_encode (s : List Char) : decode? (encode s) = some s := by
  have h : (encode s).toByteArray = s.utf8Encode := rfl
  simp [decode?, h, List.utf8Decode?_utf8Encode]

end Utf8
end RowQuery
