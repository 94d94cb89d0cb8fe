import RowQuery.Json.Value
import RowQuery.Number.Notation
import RowQuery.Text.Character
/-!
Writing JSON text, compact or indented by two spaces.

Strings escape the quote, the backslash and the control characters below the space; every other
character is written as it is.
-/

namespace RowQuery.Json

namespace Writer

/-- A character inside a string. -/
def charText (c : Char) : List Char :=
  if c = '"' then ['\\', '"']
  else if c = '\\' then ['\\', '\\']
  else if c = '\x08' then ['\\', 'b']
  else if c = '\x0c' then ['\\', 'f']
  else if c = '\n' then ['\\', 'n']
  else if c = '\r' then ['\\', 'r']
  else if c = '\t' then ['\\', 't']
  else if c.toNat < 0x20 then
    ['\\', 'u', '0', '0', Hex.digit (c.toNat / 16), Hex.digit (c.toNat % 16)]
  else [c]

/-- A string in quotes. -/
def stringText (s : String) : List Char := '"' :: (s.toList.flatMap charText ++ ['"'])

/-- An integer in decimal. -/
def intText (i : Int) : List Char :=
  (if i < 0 then ['-'] else []) ++ Nat.toDigits 10 i.natAbs

/-- A number. -/
def numberText : Number → List Char
  | .int i => intText i
  | .float x => (DecimalStyle.json.text x).toList

mutual

/-- A value without blanks. -/
def compact : Value → List Char
  | .null => ['n', 'u', 'l', 'l']
  | .bool true => ['t', 'r', 'u', 'e']
  | .bool false => ['f', 'a', 'l', 's', 'e']
  | .num n => numberText n
  | .str s => stringText s
  | .arr items => '[' :: (compactItems items ++ [']'])
  | .obj members => '{' :: (compactMembers members ++ ['}'])

/-- Items with commas between them. -/
def compactItems : List Value → List Char
  | [] => []
  | [v] => compact v
  | v :: w :: rest => compact v ++ ',' :: compactItems (w :: rest)

/-- Members with commas between them. -/
def compactMembers : List (String × Value) → List Char
  | [] => []
  | [(k, v)] => stringText k ++ ':' :: compact v
  | (k, v) :: m :: rest => stringText k ++ ':' :: compact v ++ ',' :: compactMembers (m :: rest)

end

/-- A new line with the indentation of a depth. -/
def newline (depth : Nat) : List Char := '\n' :: List.replicate (2 * depth) ' '

mutual

/-- A value with its items and members on lines of their own, `depth` levels in. -/
def indented (depth : Nat) : Value → List Char
  | .arr [] => ['[', ']']
  | .obj [] => ['{', '}']
  | .arr (v :: rest) => '[' :: (indentedItems (depth + 1) (v :: rest) ++ newline depth ++ [']'])
  | .obj (m :: rest) => '{' :: (indentedMembers (depth + 1) (m :: rest) ++ newline depth ++ ['}'])
  | .null => compact .null
  | .bool b => compact (.bool b)
  | .num n => compact (.num n)
  | .str s => compact (.str s)

/-- Items, each after a new line. -/
def indentedItems (depth : Nat) : List Value → List Char
  | [] => []
  | [v] => newline depth ++ indented depth v
  | v :: w :: rest => newline depth ++ indented depth v ++ ',' :: indentedItems depth (w :: rest)

/-- Members, each after a new line. -/
def indentedMembers (depth : Nat) : List (String × Value) → List Char
  | [] => []
  | [(k, v)] => newline depth ++ stringText k ++ ':' :: ' ' :: indented depth v
  | (k, v) :: m :: rest =>
    newline depth ++ stringText k ++ ':' :: ' ' :: indented depth v
      ++ ',' :: indentedMembers depth (m :: rest)

end

end Writer

/-- The compact text of a value. -/
def Value.text (v : Value) : String := String.ofList (Writer.compact v)

/-- The text of a value indented by two spaces. -/
def Value.indentedText (v : Value) : String := String.ofList (Writer.indented 0 v)

end RowQuery.Json
