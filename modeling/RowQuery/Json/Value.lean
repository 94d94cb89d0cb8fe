import RowQuery.Dict
import RowQuery.Number.Binary64
/-!
JSON values.

A number is an integer or a finite binary float, and the two never equal one another as values,
though they compare as numbers. The members of an object are kept as a list: in the order of the
text while a document is read, so that a repeated member can be seen, and as a `Dict` in a plain
value.
-/

namespace RowQuery.Json

/-- A number: an integer literal in the range of 64 bits, or a float. -/
inductive Number where
  | int (i : Int)
  | float (x : Binary64)
deriving DecidableEq, Inhabited

/-- A JSON value. -/
inductive Value where
  | null
  | bool (b : Bool)
  | num (n : Number)
  | str (s : String)
  | arr (items : List Value)
  | obj (members : List (String × Value))
deriving Inhabited

/-- A row of a table: the members of an object. -/
abbrev Row := Dict Value

/-- The smallest integer of 64 signed bits. -/
def minInt64 : Int := -(2 ^ 63)

/-- The largest integer of 64 signed bits. -/
def maxInt64 : Int := 2 ^ 63 - 1

/-- The largest integer of 64 unsigned bits. -/
def maxUInt64 : Nat := 2 ^ 64 - 1

/-- Whether an integer fits in 64 signed bits. -/
def fitsInt64 (i : Int) : Bool := decide (minInt64 ≤ i) && decide (i ≤ maxInt64)

namespace Number

/-- The integer, if it is one of 64 signed bits. -/
def int64? : Number → Option Int
  | .int i => if fitsInt64 i then some i else none
  | .float _ => none

/-- The number as a float, rounded to the nearest. -/
def binary64? : Number → Option Binary64
  | .int i => Binary64.ofInt? i
  | .float x => some x

/-- Order of two numbers: exact between two integers of 64 signed bits, as floats otherwise. -/
def compare? (a b : Number) : Option Ordering :=
  match a.int64?, b.int64? with
  | some x, some y => some (compare x y)
  | _, _ => do
    let x ← a.binary64?
    let y ← b.binary64?
    return x.compare y

/-- Equality as JSON values: an integer equals no float, and the two zeros are equal. -/
def same : Number → Number → Bool
  | .int i, .int j => i == j
  | .float x, .float y => x.sameValue y
  | _, _ => false

end Number

namespace Value

/-- An integer value. -/
def int (i : Int) : Value := .num (.int i)

/-- A natural number as a value. -/
def nat (n : Nat) : Value := .num (.int n)

/-- A float value. -/
def float (x : Binary64) : Value := .num (.float x)

/-- The text of a string value, null for none. -/
def ofText? : Option String → Value
  | some s => .str s
  | none => .null

/-- Whether the value is null. -/
def isNull : Value → Bool
  | .null => true
  | _ => false

/-- The boolean, if it is one. -/
def bool? : Value → Option Bool
  | .bool b => some b
  | _ => none

/-- The text, if it is a string. -/
def text? : Value → Option String
  | .str s => some s
  | _ => none

/-- The integer, if it is one of 64 signed bits. -/
def int64? : Value → Option Int
  | .num n => n.int64?
  | _ => none

/-- The natural number, if it is one of 64 unsigned bits. -/
def uint64? : Value → Option Nat
  | .num (.int i) => if 0 ≤ i ∧ i ≤ maxUInt64 then some i.toNat else none
  | _ => none

/-- The number as a float, if it is a number. -/
def binary64? : Value → Option Binary64
  | .num n => n.binary64?
  | _ => none

/-- The items, if it is an array. -/
def items? : Value → Option (List Value)
  | .arr items => some items
  | _ => none

/-- The members, if it is an object. -/
def members? : Value → Option (List (String × Value))
  | .obj members => some members
  | _ => none

/-- The member of an object under a name. -/
def member? (v : Value) (name : String) : Option Value :=
  match v with
  | .obj members => Dict.find? members name
  | _ => none

mutual

/-- Equality as JSON values: `Number.same` on numbers, item by item and member by member. -/
def same : Value → Value → Bool
  | .null, .null => true
  | .bool a, .bool b => a == b
  | .num a, .num b => a.same b
  | .str a, .str b => a == b
  | .arr a, .arr b => sameItems a b
  | .obj a, .obj b => sameMembers a b
  | _, _ => false

/-- `same` on lists of items. -/
def sameItems : List Value → List Value → Bool
  | [], [] => true
  | a :: as, b :: bs => same a b && sameItems as bs
  | _, _ => false

/-- `same` on lists of members. -/
def sameMembers : List (String × Value) → List (String × Value) → Bool
  | [], [] => true
  | (k, a) :: as, (l, b) :: bs => k == l && same a b && sameMembers as bs
  | _, _ => false

end

mutual

/-- The value with every object as a map: members in key order, of a repeated key the last one. -/
def canonical : Value → Value
  | .arr items => .arr (canonicalItems items)
  | .obj members => .obj (Dict.ofList (canonicalMembers members))
  | .null => .null
  | .bool b => .bool b
  | .num n => .num n
  | .str s => .str s

/-- `canonical` on every item. -/
def canonicalItems : List Value → List Value
  | [] => []
  | v :: rest => canonical v :: canonicalItems rest

/-- `canonical` on every member. -/
def canonicalMembers : List (String × Value) → List (String × Value)
  | [] => []
  | (k, v) :: rest => (k, canonical v) :: canonicalMembers rest

end

mutual

/-- The number of values in a value, itself included. -/
def size : Value → Nat
  | .arr items => 1 + sizeItems items
  | .obj members => 1 + sizeMembers members
  | .null | .bool _ | .num _ | .str _ => 1

/-- The sum of the sizes of items. -/
def sizeItems : List Value → Nat
  | [] => 0
  | v :: rest => size v + sizeItems rest

/-- The sum of the sizes of the values of members. -/
def sizeMembers : List (String × Value) → Nat
  | [] => 0
  | (_, v) :: rest => size v + sizeMembers rest

end

/-- The order in which a database compares two scalars: numbers, texts by code point and booleans,
each with its own kind. Null and values of different kinds do not compare. -/
def compare? : Value → Value → Option Ordering
  | .num a, .num b => a.compare? b
  | .str a, .str b => some (compare a b)
  | .bool a, .bool b => some (compare a b)
  | _, _ => none

end Value
end RowQuery.Json
