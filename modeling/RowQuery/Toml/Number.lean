import RowQuery.Json.Value
import RowQuery.Toml.Text
/-!
The numbers, dates and times of TOML documents.

Integers are those of 64 signed bits. A number that is not finite has no JSON value and reads as
null; a date or a time reads as its text under a name of its own.
-/

namespace RowQuery.Toml.Reader

/-! ### Numbers -/

/-- Further digits, single underscores between them left out. -/
def moreDigits (isDigit : Char → Bool) : Reader (List Char)
  | [] => some ([], [])
  | ['_'] => none
  | '_' :: c :: rest =>
    if isDigit c then (moreDigits isDigit rest).map fun (cs, rest) => (c :: cs, rest) else none
  | c :: rest =>
    if isDigit c then (moreDigits isDigit rest).map fun (cs, rest) => (c :: cs, rest)
    else some ([], c :: rest)

/-- Digits, one at least. -/
def digits (isDigit : Char → Bool) : Reader (List Char)
  | [] => none
  | c :: rest =>
    if isDigit c then (moreDigits isDigit rest).map fun (cs, rest) => (c :: cs, rest) else none

/-- The digits before a point: a zero stands alone. -/
def wholeDigits : Reader (List Char)
  | '0' :: rest => some (['0'], rest)
  | s => digits Char.isDigit s

/-- A possible sign: whether it is a minus. -/
def sign : List Char → Bool × List Char
  | '-' :: rest => (true, rest)
  | '+' :: rest => (false, rest)
  | s => (false, s)

/-- The digits after a point, none without a point. -/
def fractionDigits : Reader (List Char)
  | '.' :: rest => digits Char.isDigit rest
  | s => some ([], s)

/-- The exponent, none if no letter announces one. -/
def exponent : Reader (Option Int)
  | c :: rest =>
    if c = 'e' ∨ c = 'E' then
      let (negative, rest) := sign rest
      (digits Char.isDigit rest).map fun (ds, rest) =>
        let e : Int := Nat.ofDigitChars 10 ds 0
        (some (if negative then -e else e), rest)
    else some (none, c :: rest)
  | [] => some (none, [])

/-- The value of an integer within 64 signed bits. -/
def integer? (i : Int) : Option Json.Value := if Json.fitsInt64 i then some (.int i) else none

/-- The value of a float. Beyond the largest number a positive one is refused and a negative one is
not finite. -/
def float? (negative : Bool) (digits : Nat) (exp : Int) : Option Json.Value :=
  match Binary64.ofDecimal? negative digits exp with
  | some x => some (.float x)
  | none => if negative then some .null else none

/-- A number in decimal after its sign. -/
def decimal (negative : Bool) : Reader Json.Value := fun s => do
  let (whole, s) ← wholeDigits s
  let (fraction, s) ← fractionDigits s
  let (e, s) ← exponent s
  let digits := Nat.ofDigitChars 10 (whole ++ fraction) 0
  let v ←
    if fraction.isEmpty && e.isNone then integer? (if negative then -(digits : Int) else digits)
    else float? negative digits (e.getD 0 - fraction.length)
  some (v, s)

/-- An integer in a base that its first two characters announce. -/
def inBase (base : Nat) : Reader Json.Value := fun s => do
  let isDigit := fun c => (Hex.value? c).any fun d => decide (d < base)
  let (ds, s) ← digits isDigit s
  let v ← integer? (ds.foldl (fun n c => base * n + (Hex.value? c).getD 0) 0 : Nat)
  some (v, s)

/-- A number. -/
def number : Reader Json.Value
  | '0' :: 'x' :: rest => inBase 16 rest
  | '0' :: 'o' :: rest => inBase 8 rest
  | '0' :: 'b' :: rest => inBase 2 rest
  | s =>
    match sign s with
    | (_, 'i' :: 'n' :: 'f' :: rest) => some (.null, rest)
    | (_, 'n' :: 'a' :: 'n' :: rest) => some (.null, rest)
    | (negative, s) => decimal negative s

/-! ### Dates and times -/

/-- A fixed count of digits and their number. -/
def fixedDigits (count : Nat) : Reader (List Char × Nat) := fun s =>
  let ds := s.take count
  if ds.length = count ∧ ds.all Char.isDigit then
    some ((ds, Nat.ofDigitChars 10 ds 0), s.drop count)
  else none

/-- Two digits within bounds. -/
def twoDigits (low high : Nat) : Reader (List Char × Nat) := fun s => do
  let ((ds, n), s) ← fixedDigits 2 s
  if low ≤ n ∧ n ≤ high then some ((ds, n), s) else none

/-- A character that has to follow. -/
def expect (c : Char) : List Char → Option (List Char)
  | d :: rest => if d = c then some rest else none
  | [] => none

/-- Whether a year has a leap day. -/
def isLeapYear (year : Nat) : Bool := year % 4 == 0 && (year % 100 != 0 || year % 400 == 0)

/-- The number of days of a month. -/
def daysOfMonth (year month : Nat) : Nat :=
  if month = 2 then (if isLeapYear year then 29 else 28)
  else if month = 4 ∨ month = 6 ∨ month = 9 ∨ month = 11 then 30 else 31

/-- A day of the calendar. -/
def date : Reader (List Char) := fun s => do
  let ((year, y), s) ← fixedDigits 4 s
  let s ← expect '-' s
  let ((month, m), s) ← twoDigits 1 12 s
  let s ← expect '-' s
  let ((day, d), s) ← twoDigits 1 31 s
  if d ≤ daysOfMonth y m then some (year ++ '-' :: month ++ '-' :: day, s) else none

/-- The fraction of a second: nine digits count, and zeros at the end are not written. -/
def secondFraction : Reader (List Char)
  | '.' :: rest =>
    match rest.span Char.isDigit with
    | ([], _) => none
    | (ds, rest) =>
      let kept := ((ds.take 9).reverse.dropWhile fun c => c == '0').reverse
      some (if kept.isEmpty then [] else '.' :: kept, rest)
  | s => some ([], s)

/-- A time of day. -/
def time : Reader (List Char) := fun s => do
  let ((hour, _), s) ← twoDigits 0 23 s
  let s ← expect ':' s
  let ((minute, _), s) ← twoDigits 0 59 s
  let s ← expect ':' s
  let ((second, _), s) ← twoDigits 0 60 s
  let (fraction, s) ← secondFraction s
  some (hour ++ ':' :: minute ++ ':' :: second ++ fraction, s)

/-- The distance from universal time, nothing if none is given. Distance zero has a plus. -/
def zone : Reader (List Char)
  | c :: rest =>
    if c = 'Z' ∨ c = 'z' then some (['Z'], rest)
    else if c = '+' ∨ c = '-' then do
      let ((hour, h), s) ← twoDigits 0 23 rest
      let s ← expect ':' s
      let ((minute, m), s) ← twoDigits 0 59 s
      some ((if h = 0 ∧ m = 0 then '+' else c) :: hour ++ ':' :: minute, s)
    else some ([], c :: rest)
  | [] => some ([], [])

/-- A time after a day, nothing if none follows. -/
def timeOfDay : Reader (List Char)
  | c :: rest =>
    if c = 'T' ∨ c = 't' ∨ c = ' ' then
      match time rest with
      | none => some ([], c :: rest)
      | some (t, s) => (zone s).map fun (z, s) => ('T' :: t ++ z, s)
    else some ([], c :: rest)
  | [] => some ([], [])

/-- A day, a time, or both. -/
def moment : Reader (List Char) := fun s =>
  match date s with
  | some (d, s) => (timeOfDay s).map fun (t, s) => (d ++ t, s)
  | none => time s

/-- The name under which the text of a date or a time stands. -/
def momentName : String := "$__toml_private_datetime"

/-- The value of a date or a time. -/
def momentValue (text : List Char) : Json.Value := .obj [(momentName, .str (String.ofList text))]

end RowQuery.Toml.Reader
