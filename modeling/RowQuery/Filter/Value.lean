import RowQuery.Json.Value
/-!
The values that filters compare with.

A value is a scalar, a list or a range. `Value.read?` reads the JSON form that `Value.toJson`
writes; `Value.ofJson?` converts plain JSON, in which an object is no range.
-/

namespace RowQuery.Filter

/-- A value of a comparison. Integers are those of 64 signed bits. -/
inductive Value where
  | null
  | bool (b : Bool)
  | int (i : Int)
  | float (x : Binary64)
  | str (s : String)
  | list (items : List Value)
  | range (lower upper : Value)
deriving Inhabited

namespace Value

/-- The name of the lower bound in the JSON form of a range. -/
def lowerName : String := "lower"

/-- The name of the upper bound in the JSON form of a range. -/
def upperName : String := "upper"

/-- Neither a list nor a range. -/
def isScalar : Value → Bool
  | .list _ | .range _ _ => false
  | .null | .bool _ | .int _ | .float _ | .str _ => true

/-- The value as a float, if it is a number. -/
def binary64? : Value → Option Binary64
  | .int i => Binary64.ofInt? i
  | .float x => some x
  | .null | .bool _ | .str _ | .list _ | .range _ _ => none

/-- The text, if the value is one. -/
def text? : Value → Option String
  | .str s => some s
  | .null | .bool _ | .int _ | .float _ | .list _ | .range _ _ => none

mutual

/-- The JSON form: a range is an object of its two bounds. -/
def toJson : Value → Json.Value
  | .null => .null
  | .bool b => .bool b
  | .int i => .int i
  | .float x => .float x
  | .str s => .str s
  | .list items => .arr (toJsonItems items)
  | .range lower upper => .obj [(lowerName, toJson lower), (upperName, toJson upper)]

/-- `toJson` on every item. -/
def toJsonItems : List Value → List Json.Value
  | [] => []
  | v :: rest => toJson v :: toJsonItems rest

end

/-- The value of a JSON number: an integer where 64 signed bits hold it, a float otherwise. -/
def ofNumber? (n : Json.Number) : Option Value :=
  match n.int64? with
  | some i => some (.int i)
  | none => n.binary64?.map .float

mutual

/-- The value of plain JSON; objects have none. -/
def ofJson? : Json.Value → Option Value
  | .null => some .null
  | .bool b => some (.bool b)
  | .num n => ofNumber? n
  | .str s => some (.str s)
  | .arr items => (ofJsonItems? items).map .list
  | .obj _ => none

/-- `ofJson?` on every item. -/
def ofJsonItems? : List Json.Value → Option (List Value)
  | [] => some []
  | v :: rest => do
    let value ← ofJson? v
    let values ← ofJsonItems? rest
    some (value :: values)

end

mutual

/-- Reads a value from its JSON form. An object is a range if its members are the two bounds, each
once, and nothing else. -/
def read? : Json.Value → Option Value
  | .null => some .null
  | .bool b => some (.bool b)
  | .num n => ofNumber? n
  | .str s => some (.str s)
  | .arr items => (readItems? items).map .list
  | .obj members => do
    match ← readMembers? members with
    | [(a, x), (b, y)] =>
      if a = lowerName ∧ b = upperName then some (.range x y)
      else if a = upperName ∧ b = lowerName then some (.range y x)
      else none
    | _ => none

/-- `read?` on every item. -/
def readItems? : List Json.Value → Option (List Value)
  | [] => some []
  | v :: rest => do
    let value ← read? v
    let values ← readItems? rest
    some (value :: values)

/-- `read?` on every member. -/
def readMembers? : List (String × Json.Value) → Option (List (String × Value))
  | [] => some []
  | (name, v) :: rest => do
    let value ← read? v
    let values ← readMembers? rest
    some ((name, value) :: values)

end

mutual

/-- The number of values in a value, itself included. -/
def size : Value → Nat
  | .list items => 1 + sizeItems items
  | .range lower upper => 1 + size lower + size upper
  | .null | .bool _ | .int _ | .float _ | .str _ => 1

/-- The sum of the sizes of items. -/
def sizeItems : List Value → Nat
  | [] => 0
  | v :: rest => size v + sizeItems rest

end

/-- The optional value, null for none. -/
def ofOption : Option Value → Value
  | some v => v
  | none => .null

end Value
end RowQuery.Filter
