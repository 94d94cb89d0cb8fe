import RowQuery.Json.Reader
/-!
Reading only some members of a JSON text.

A form says which members of an object are read, and how. The others are passed over, which asks
less of them than reading does: they have to be JSON, but they may be as deep and their numbers as
large as they like, and the halves of surrogate pairs may stand alone in their strings.
-/

namespace RowQuery.Json

namespace Reader

/-! ### Passing over -/

/-- Passes over a string from behind its opening quote; of a code after a backslash only the digits
are looked at. -/
def passString : List Char → Option (List Char)
  | [] => none
  | '\\' :: 'u' :: a :: b :: c :: d :: rest =>
    if (hex4 [a, b, c, d]).isSome then passString rest else none
  | '\\' :: c :: rest => if (shortEscape? c).isSome then passString rest else none
  | c :: rest =>
    if c = '"' then some rest else if c.toNat < 0x20 then none else passString rest

/-- Passes over a number of any size. -/
def passNumber (s : List Char) : Option (List Char) := do
  let s := match s with
    | '-' :: rest => rest
    | s => s
  let (_, s) ← wholePart s
  let (_, s) ← fractionPart s
  let (_, s) ← exponentPart s
  some s

/-- Passes over a value that is neither an array nor an object. -/
def passScalar : List Char → Option (List Char)
  | '"' :: rest => passString rest
  | 'n' :: rest => word ['u', 'l', 'l'] rest
  | 't' :: rest => word ['r', 'u', 'e'] rest
  | 'f' :: rest => word ['a', 'l', 's', 'e'] rest
  | s => passNumber s

/-- What comes next in a text that is passed over. -/
inductive Expected where
  | value
  /-- A name with its colon and its value. -/
  | member
  /-- A comma or the end of what is open. -/
  | next

/-- Passes over the rest of a value. Of the arrays and objects that are open, the innermost first,
only the closing characters are kept. Each step takes a character at least. -/
def passFrom : Nat → List Char → Expected → List Char → Option (List Char)
  | _, [], .next, s => some s
  | 0, _, _, _ => none
  | fuel + 1, closers, .value, s =>
    match dropBlanks s with
    | '[' :: rest =>
      match dropBlanks rest with
      | ']' :: rest => passFrom fuel closers .next rest
      | _ => passFrom fuel (']' :: closers) .value rest
    | '{' :: rest =>
      match dropBlanks rest with
      | '}' :: rest => passFrom fuel closers .next rest
      | _ => passFrom fuel ('}' :: closers) .member rest
    | s => (passScalar s).bind (passFrom fuel closers .next)
  | fuel + 1, closers, .member, s =>
    match dropBlanks s with
    | '"' :: rest =>
      match (passString rest).map dropBlanks with
      | some (':' :: rest) => passFrom fuel closers .value rest
      | _ => none
    | _ => none
  | fuel + 1, close :: closers, .next, s =>
    match dropBlanks s with
    | [] => none
    | c :: rest =>
      if c = close then passFrom fuel closers .next rest
      else if c = ',' then
        passFrom fuel (close :: closers) (if close = '}' then .member else .value) rest
      else none

/-- Passes over a value. -/
def pass (s : List Char) : Option (List Char) := passFrom (s.length + 1) [] .value s

/-! ### Forms -/

/-- How a value is read under a bound on its depth. -/
abbrev Form := Nat → Reader Value

/-- A member whose value has a form, or one without a form, which is passed over. -/
def selectedMember (form? : String → Option Form) (depth : Nat) :
    Reader (Option (String × Value)) := fun s => do
  let (name, s) ← string (dropBlanks s)
  match dropBlanks s with
  | ':' :: rest =>
    match form? name with
    | some form =>
      let (v, s) ← form depth rest
      some (some (name, v), s)
    | none => (pass rest).map fun s => (none, s)
  | _ => none

/-- The members of an object that have a form. What is no object is read whole. -/
def membersOf (form? : String → Option Form) : Form
  | 0 => value 0
  | depth + 1 => fun s =>
    match dropBlanks s with
    | '{' :: rest =>
      (collection (selectedMember form? depth) '}' rest).map fun (ms, s) =>
        (.obj (ms.filterMap id), s)
    | s => value (depth + 1) s

/-- The members with one of some names. -/
def membersNamed (names : List String) : Form :=
  membersOf fun name => if names.contains name then some value else none

/-- The items of an array, each of a form. What is no array is read whole. -/
def itemsOf (form : Form) : Form
  | 0 => value 0
  | depth + 1 => fun s =>
    match dropBlanks s with
    | '[' :: rest => (collection (form depth) ']' rest).map fun (items, s) => (.arr items, s)
    | s => value (depth + 1) s

end Reader

/-- The value of a JSON text of a form. -/
def Value.parseAs? (form : Reader.Form) (text : String) : Option Value := do
  let (v, rest) ← form maxDepth text.toList
  if (Reader.dropBlanks rest).isEmpty then some v else none

end RowQuery.Json
