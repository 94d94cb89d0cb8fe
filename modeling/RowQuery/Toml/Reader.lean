import RowQuery.Toml.Number
import RowQuery.Toml.Table
/-!
Reading TOML documents.

A document is read into the JSON value of its tables. Arrays and inline tables stand at most
`maxDepth` deep in one another, and no dotted key has more parts than that.
-/

namespace RowQuery.Toml

/-- How deep arrays and inline tables may stand in one another. -/
def maxDepth : Nat := 79

namespace Reader

/-- The text after a word, if it begins with it. -/
def word (w : List Char) (s : List Char) : Option (List Char) :=
  if w.isPrefixOf s then some (s.drop w.length) else none

/-- A value that is neither an array nor an inline table. -/
def scalar : Reader Json.Value
  | [] => none
  | c :: rest =>
    if c = '"' ∨ c = '\'' then (string (c :: rest)).map fun (s, rest) => (.str s, rest)
    else if c = 't' then (word ['r', 'u', 'e'] rest).map fun rest => (.bool true, rest)
    else if c = 'f' then (word ['a', 'l', 's', 'e'] rest).map fun rest => (.bool false, rest)
    else match moment (c :: rest) with
      | some (text, s) => some (momentValue text, s)
      | none => number (c :: rest)

/-- The items of an array up to its closing bracket; a comma may stand after the last one. -/
def items (item : Reader Json.Value) : Nat → Reader (List Json.Value)
  | 0, _ => none
  | fuel + 1, s =>
    match dropFiller s with
    | ']' :: rest => some ([], rest)
    | s => do
      let (v, s) ← item s
      match dropFiller s with
      | ',' :: rest => do
        let (vs, s) ← items item fuel rest
        some (v :: vs, s)
      | ']' :: rest => some ([v], rest)
      | _ => none

/-- A key, an equals sign and a value. -/
def pair (value : Reader Json.Value) : Reader Pair := fun s => do
  let (keys, s) ← path maxDepth s
  match s with
  | '=' :: rest => do
    let key ← keys.getLast?
    let (v, s) ← value (dropSpaces rest)
    some (⟨keys.dropLast, key, v⟩, s)
  | _ => none

/-- Pairs with commas between them up to the closing brace, one at least and all in one line. -/
def pairs (value : Reader Json.Value) : Nat → Reader (List Pair)
  | 0, _ => none
  | fuel + 1, s => do
    let (p, s) ← pair value s
    match dropSpaces s with
    | ',' :: rest => do
      let (ps, s) ← pairs value fuel rest
      some (p :: ps, s)
    | '}' :: rest => some ([p], rest)
    | _ => none

/-- The pairs of an inline table after its opening brace. -/
def inlinePairs (value : Reader Json.Value) : Reader (List Pair) := fun s =>
  match dropSpaces s with
  | '}' :: rest => some ([], rest)
  | s => pairs value s.length s

/-- A value, with at most `depth` arrays and inline tables around one another in it. -/
def value : Nat → Reader Json.Value
  | 0 => scalar
  | depth + 1 => fun
    | '[' :: rest =>
      (items (value depth) (rest.length + 1) rest).map fun (vs, s) => (.arr vs, s)
    | '{' :: rest => do
      let (ps, s) ← inlinePairs (value depth) rest
      let v ← inlineTable? ps
      some (v, s)
    | s => scalar s

/-- The path of a header and its last key, up to its closing brackets. -/
def header (closing : List Char) : Reader (List String × String) := fun s => do
  let (keys, s) ← path maxDepth s
  let key ← keys.getLast?
  let s ← word closing s
  some ((keys.dropLast, key), s)

/-- A document that is read up to some line: its tables, and the path to the one that is open. -/
structure State where
  entries : Entries
  opened : List String

/-- The state before the first line. -/
def State.start : State := ⟨[], []⟩

/-- Reads one line: a header, a pair, or nothing but blanks and a comment. -/
def line (state : State) (s : List Char) : Option (State × List Char) :=
  match s with
  | '[' :: '[' :: rest => do
    let ((path, key), s) ← header [']', ']'] rest
    let entries ← state.entries.change? (Entries.openItem? key) path
    some (⟨entries, path ++ [key]⟩, s)
  | '[' :: rest => do
    let ((path, key), s) ← header [']'] rest
    let entries ← state.entries.change? (Entries.openTable? key) path
    some (⟨entries, path ++ [key]⟩, s)
  | '#' :: _ | '\n' :: _ | '\r' :: _ | [] => some (state, s)
  | s => do
    let (p, s) ← pair (value maxDepth) s
    let entries ← state.entries.change? (Entries.assignPair? p) state.opened
    some ({ state with entries := entries }, s)

/-- Reads the lines that are left; each takes a character at least. -/
def lines : Nat → State → List Char → Option Entries
  | 0, _, _ => none
  | fuel + 1, state, s =>
    match dropSpaces s with
    | [] => some state.entries
    | s => do
      let (state, s) ← line state s
      let s ← lineEnd? s
      lines fuel state s

end Reader

/-- The value of a document. A mark of the byte order may stand in front of it. -/
def parse? (text : String) : Option Json.Value :=
  let s := match text.toList with
    | c :: rest => if c.toNat = 0xFEFF then rest else c :: rest
    | [] => []
  (Reader.lines (s.length + 1) .start s).map fun entries => .obj (entriesJson entries)

end RowQuery.Toml
