import RowQuery.Json.Literal
import RowQuery.Text.Character
/-!
Reading JSON text.

A reader takes the characters that are left and gives what it read and what is left after it. Arrays
and objects stand at most `maxDepth` deep in one another. Objects keep their members in the order of
the text, repeated ones included.
-/

namespace RowQuery.Json

/-- What a reader of `α` does with the characters that are left. -/
abbrev Reader (α : Type) := List Char → Option (α × List Char)

namespace Reader

/-- The characters JSON allows between its parts. -/
def isBlank (c : Char) : Bool := c == ' ' || c == '\n' || c == '\r' || c == '\t'

/-- The text after leading blanks. -/
def dropBlanks (s : List Char) : List Char := s.dropWhile isBlank

/-- Four hexadecimal digits. -/
def hex4 : Reader Nat
  | a :: b :: c :: d :: rest => do
    let a ← Hex.value? a
    let b ← Hex.value? b
    let c ← Hex.value? c
    let d ← Hex.value? d
    some (((a * 16 + b) * 16 + c) * 16 + d, rest)
  | _ => none

/-- The second half of a surrogate pair, an escape of its own. -/
def lowSurrogate : Reader Nat
  | '\\' :: 'u' :: rest => do
    let (low, rest) ← hex4 rest
    if 0xDC00 ≤ low ∧ low < 0xE000 then some (low, rest) else none
  | _ => none

/-- A character given by its code; a code point beyond 16 bits takes two escapes, and half of such a
pair alone is no character. -/
def codeEscape (s : List Char) : Option (Char × List Char) := do
  let (code, rest) ← hex4 s
  if 0xD800 ≤ code ∧ code < 0xDC00 then
    let (low, rest) ← lowSurrogate rest
    some (Char.ofNat (0x10000 + (code - 0xD800) * 0x400 + (low - 0xDC00)), rest)
  else if 0xDC00 ≤ code ∧ code < 0xE000 then none
  else some (Char.ofNat code, rest)

/-- The character that a letter after a backslash stands for. -/
def shortEscape? : Char → Option Char
  | '"' => some '"'
  | '\\' => some '\\'
  | '/' => some '/'
  | 'b' => some '\x08'
  | 'f' => some '\x0c'
  | 'n' => some '\n'
  | 'r' => some '\r'
  | 't' => some '\t'
  | _ => none

/-- What follows a backslash. -/
def escape : Reader Char
  | [] => none
  | c :: rest => if c = 'u' then codeEscape rest else (shortEscape? c).map fun e => (e, rest)

/-- The characters of a string up to its closing quote. Control characters must be escaped. Each
step takes a character at least, so the length of the text is fuel enough. -/
def stringTail : Nat → Reader (List Char)
  | 0, _ => none
  | _ + 1, [] => none
  | fuel + 1, c :: rest =>
    if c = '"' then some ([], rest)
    else if c = '\\' then do
      let (e, rest) ← escape rest
      let (cs, rest) ← stringTail fuel rest
      some (e :: cs, rest)
    else if c.toNat < 0x20 then none
    else do
      let (cs, rest) ← stringTail fuel rest
      some (c :: cs, rest)

/-- A string, from its opening quote. -/
def string : Reader String
  | '"' :: rest =>
    (stringTail (rest.length + 1) rest).map fun (cs, rest) => (String.ofList cs, rest)
  | _ => none

/-- One decimal digit at least. -/
def digits : Reader (List Char) := fun s =>
  match s.span Char.isDigit with
  | ([], _) => none
  | (ds, rest) => some (ds, rest)

/-- The whole part of a number: no zero before another digit. -/
def wholePart : Reader (List Char)
  | '0' :: rest => some (['0'], rest)
  | s => digits s

/-- The digits after a point, none without a point. -/
def fractionPart : Reader (List Char)
  | '.' :: rest => digits rest
  | s => some ([], s)

/-- The sign and digits of an exponent. -/
def exponentDigits : Reader Int
  | '-' :: rest => (digits rest).map fun (ds, rest) => (-(Nat.ofDigitChars 10 ds 0 : Int), rest)
  | '+' :: rest => (digits rest).map fun (ds, rest) => ((Nat.ofDigitChars 10 ds 0 : Int), rest)
  | s => (digits s).map fun (ds, rest) => ((Nat.ofDigitChars 10 ds 0 : Int), rest)

/-- The exponent of a number, none if no letter announces one. -/
def exponentPart : Reader (Option Int)
  | c :: rest =>
    if c = 'e' ∨ c = 'E' then (exponentDigits rest).map fun (e, rest) => (some e, rest)
    else some (none, c :: rest)
  | [] => some (none, [])

/-- The number after a possible sign. A number beyond the largest float is refused. -/
def unsigned (negative : Bool) : Reader Number := fun s => do
  let (whole, s) ← wholePart s
  let (fraction, s) ← fractionPart s
  let (exponent, s) ← exponentPart s
  let number ← Literal.number? ⟨whole, fraction, exponent⟩ negative
  some (number, s)

/-- A number. -/
def number : Reader Number
  | '-' :: rest => unsigned true rest
  | s => unsigned false s

/-- The text after a word, if it begins with it. -/
def word (w : List Char) (s : List Char) : Option (List Char) :=
  if w.isPrefixOf s then some (s.drop w.length) else none

/-- A value that is neither an array nor an object, at the start of the text. -/
def scalar : Reader Value
  | 'n' :: rest => (word ['u', 'l', 'l'] rest).map fun rest => (.null, rest)
  | 't' :: rest => (word ['r', 'u', 'e'] rest).map fun rest => (.bool true, rest)
  | 'f' :: rest => (word ['a', 'l', 's', 'e'] rest).map fun rest => (.bool false, rest)
  | '"' :: rest => (string ('"' :: rest)).map fun (s, rest) => (.str s, rest)
  | s => (number s).map fun (n, rest) => (.num n, rest)

/-- Items with commas between them up to the closing character, one item at least. -/
def sequence {α : Type} (item : Reader α) (close : Char) : Nat → Reader (List α)
  | 0, _ => none
  | fuel + 1, s => do
    let (x, s) ← item s
    match dropBlanks s with
    | [] => none
    | c :: rest =>
      if c = ',' then do
        let (xs, s) ← sequence item close fuel rest
        some (x :: xs, s)
      else if c = close then some ([x], rest)
      else none

/-- The items of a collection after its opening character. -/
def collection {α : Type} (item : Reader α) (close : Char) : Reader (List α) := fun s =>
  match dropBlanks s with
  | [] => none
  | c :: rest => if c = close then some ([], rest) else sequence item close s.length (c :: rest)

/-- A member of an object: a name, a colon and a value. -/
def member (value : Reader Value) : Reader (String × Value) := fun s => do
  let (name, s) ← string (dropBlanks s)
  match dropBlanks s with
  | ':' :: rest =>
    let (v, s) ← value rest
    some ((name, v), s)
  | _ => none

/-- A value after blanks, with at most `depth` arrays and objects around one another in it. -/
def value : Nat → Reader Value
  | 0 => fun s => scalar (dropBlanks s)
  | depth + 1 => fun s =>
    match dropBlanks s with
    | '[' :: rest => (collection (value depth) ']' rest).map fun (items, s) => (.arr items, s)
    | '{' :: rest =>
      (collection (member (value depth)) '}' rest).map fun (members, s) => (.obj members, s)
    | s => scalar s

end Reader

/-- How deep arrays and objects may stand in one another. -/
def maxDepth : Nat := 127

/-- The value of a JSON text, objects with their members in the order of the text. -/
def Value.ofChars? (s : List Char) : Option Value := do
  let (v, rest) ← Reader.value maxDepth s
  if (Reader.dropBlanks rest).isEmpty then some v else none

/-- The value of a JSON text, objects with their members in the order of the text. -/
def Value.parse? (text : String) : Option Value := Value.ofChars? text.toList

end RowQuery.Json
