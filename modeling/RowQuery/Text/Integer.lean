/-!
Reading whole texts as integers within bounds.

One sign may stand in front, a minus only where negative integers are allowed; digits are the ASCII
ones. The text is judged from left to right: the first character that is no digit, or the first
digit that leads out of the bounds, decides the error.
-/

namespace RowQuery

/-- Why a text is no integer. -/
inductive IntegerError where
  | empty
  | invalidDigit
  | tooLarge
  | tooSmall
deriving DecidableEq, Repr

namespace IntegerError

/-- The text of an error. -/
def message : IntegerError → String
  | empty => "cannot parse integer from empty string"
  | invalidDigit => "invalid digit found in string"
  | tooLarge => "number too large to fit in target type"
  | tooSmall => "number too small to fit in target type"

end IntegerError

namespace Integer

/-- Reads digits after `sofar`; a magnitude above `bound` is the error `beyond`. -/
def readDigits (bound : Nat) (beyond : IntegerError) : Nat → List Char → Except IntegerError Nat
  | sofar, [] => .ok sofar
  | sofar, c :: rest =>
    if c.isDigit then
      let next := 10 * sofar + (c.toNat - 48)
      if next ≤ bound then readDigits bound beyond next rest else .error beyond
    else .error .invalidDigit

/-- Reads digits, one at least. -/
def readMagnitude (bound : Nat) (beyond : IntegerError) : List Char → Except IntegerError Nat
  | [] => .error .invalidDigit
  | s => readDigits bound beyond 0 s

/-- Reads a natural number up to `bound`. -/
def readNat (bound : Nat) : List Char → Except IntegerError Nat
  | [] => .error .empty
  | '+' :: rest => readMagnitude bound .tooLarge rest
  | s => readMagnitude bound .tooLarge s

/-- Reads an integer from `-(bound + 1)` to `bound`. -/
def readInt (bound : Nat) : List Char → Except IntegerError Int
  | [] => .error .empty
  | '-' :: rest => (readMagnitude (bound + 1) .tooSmall rest).map fun n => -(n : Int)
  | '+' :: rest => (readMagnitude bound .tooLarge rest).map fun n => (n : Int)
  | s => (readMagnitude bound .tooLarge s).map fun n => (n : Int)

end Integer
end RowQuery
