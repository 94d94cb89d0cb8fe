import RowQuery.Text.Character
/-!
The texts of TOML documents: blanks, comments, strings and keys.

A reader takes the characters that are left and gives what it read and what is left after it. A line
ends in a line feed, with or without a carriage return before it; inside strings of several lines
both read as a line feed.
-/

namespace RowQuery.Toml

/-- What a reader of `α` does with the characters that are left. -/
abbrev Reader (α : Type) := List Char → Option (α × List Char)

namespace Reader

/-- The blanks inside a line. -/
def isSpace (c : Char) : Bool := c == ' ' || c == '\t'

/-- The text after leading blanks. -/
def dropSpaces (s : List Char) : List Char := s.dropWhile isSpace

/-- Characters of comments and strings: all but the controls of ASCII, and the tabulator. -/
def isPrintable (c : Char) : Bool := c == '\t' || (decide (0x20 ≤ c.toNat) && c.toNat != 0x7F)

/-- The text after the end of a line. -/
def newline? : List Char → Option (List Char)
  | '\n' :: rest => some rest
  | '\r' :: '\n' :: rest => some rest
  | _ => none

/-- The text after a comment, if it begins with one. -/
def dropComment : List Char → List Char
  | '#' :: rest => rest.dropWhile isPrintable
  | s => s

/-- The text after blanks, a comment and the end of the line or of the document. -/
def lineEnd? (s : List Char) : Option (List Char) :=
  match dropComment (dropSpaces s) with
  | [] => some []
  | s => newline? s

/-- The text after blanks, comments and ends of lines. Each round takes a character at least, so the
length of the text is fuel enough. -/
def dropFillerFuel : Nat → List Char → List Char
  | 0, s => s
  | fuel + 1, s =>
    let s := dropComment (dropSpaces s)
    match newline? s with
    | some rest => dropFillerFuel fuel rest
    | none => s

/-- The text after blanks, comments and ends of lines. -/
def dropFiller (s : List Char) : List Char := dropFillerFuel (s.length + 1) s

/-- The text after blanks and ends of lines. -/
def dropBlankLines : List Char → List Char
  | [] => []
  | '\r' :: '\n' :: rest => dropBlankLines rest
  | c :: rest => if isSpace c || c == '\n' then dropBlankLines rest else c :: rest

/-! ### Strings -/

/-- The character that a letter after a backslash stands for. -/
def shortEscape? : Char → Option Char
  | 'b' => some '\x08'
  | 't' => some '\t'
  | 'n' => some '\n'
  | 'f' => some '\x0c'
  | 'r' => some '\r'
  | '"' => some '"'
  | '\\' => some '\\'
  | _ => none

/-- A character given by a number of hexadecimal digits. -/
def codeEscape (count : Nat) : Reader Char := fun s => do
  let code ← Hex.number? 0 (s.take count)
  if count ≤ s.length ∧ code.isValidChar then some (Char.ofNat code, s.drop count) else none

/-- What follows a backslash. -/
def escape : Reader Char
  | 'u' :: rest => codeEscape 4 rest
  | 'U' :: rest => codeEscape 8 rest
  | c :: rest => (shortEscape? c).map fun e => (e, rest)
  | [] => none

/-- The characters of a string of one line, up to its closing quote. -/
def basicTail : Nat → Reader (List Char)
  | 0, _ => none
  | _ + 1, [] => none
  | fuel + 1, c :: rest =>
    if c = '"' then some ([], rest)
    else if c = '\\' then do
      let (e, rest) ← escape rest
      let (cs, rest) ← basicTail fuel rest
      some (e :: cs, rest)
    else if isPrintable c then do
      let (cs, rest) ← basicTail fuel rest
      some (c :: cs, rest)
    else none

/-- A string of one line after its opening quote. -/
def basic : Reader String := fun s =>
  (basicTail (s.length + 1) s).map fun (cs, rest) => (String.ofList cs, rest)

/-- A string of one line without escapes, after its opening quote. -/
def literal : Reader String := fun s =>
  match s.span fun c => isPrintable c && c != '\'' with
  | (cs, '\'' :: rest) => some (String.ofList cs, rest)
  | _ => none

/-- The text after the end of a line that a backslash joins with what follows. -/
def joinedLine? (s : List Char) : Option (List Char) :=
  (newline? (dropSpaces s)).map dropBlankLines

/-- The characters of a string of several lines, up to its three closing quotes; one or two quotes
more belong to the string. -/
def blockTail (quote : Char) (escapes : Bool) : Nat → Reader (List Char)
  | 0, _ => none
  | _ + 1, [] => none
  | fuel + 1, c :: rest =>
    if c = quote then
      let more := (rest.takeWhile fun d => d == quote).length
      if 2 ≤ more then
        let extra := min (more - 2) 2
        some (List.replicate extra quote, rest.drop (2 + extra))
      else do
        let (cs, rest) ← blockTail quote escapes fuel rest
        some (c :: cs, rest)
    else if c = '\\' && escapes then
      match joinedLine? rest with
      | some rest => blockTail quote escapes fuel rest
      | none => do
        let (e, rest) ← escape rest
        let (cs, rest) ← blockTail quote escapes fuel rest
        some (e :: cs, rest)
    else match newline? (c :: rest) with
      | some rest => do
        let (cs, rest) ← blockTail quote escapes fuel rest
        some ('\n' :: cs, rest)
      | none =>
        if isPrintable c then do
          let (cs, rest) ← blockTail quote escapes fuel rest
          some (c :: cs, rest)
        else none

/-- A string of several lines after its opening quotes. A line end right after them is left out. -/
def block (quote : Char) (escapes : Bool) : Reader String := fun s =>
  let s := (newline? s).getD s
  (blockTail quote escapes (s.length + 1) s).map fun (cs, rest) => (String.ofList cs, rest)

/-- A string of any kind. -/
def string : Reader String
  | '"' :: '"' :: '"' :: rest => block '"' true rest
  | '"' :: rest => basic rest
  | '\'' :: '\'' :: '\'' :: rest => block '\'' false rest
  | '\'' :: rest => literal rest
  | _ => none

/-! ### Keys -/

/-- The characters of keys without quotes. -/
def isBareKeyChar (c : Char) : Bool := c.isAlphanum || c == '-' || c == '_'

/-- One key. -/
def key : Reader String
  | '"' :: rest => basic rest
  | '\'' :: rest => literal rest
  | s => match s.span isBareKeyChar with
    | ([], _) => none
    | (cs, rest) => some (String.ofList cs, rest)

/-- Keys with points between them, at most `count`, and the blanks around them. -/
def path : Nat → Reader (List String)
  | 0, _ => none
  | count + 1, s => do
    let (k, s) ← key (dropSpaces s)
    match dropSpaces s with
    | '.' :: rest => do
      let (ks, s) ← path count rest
      some (k :: ks, s)
    | s => some ([k], s)

end Reader
end RowQuery.Toml
