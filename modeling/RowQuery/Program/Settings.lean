import RowQuery.Text.Alphanumeric
import RowQuery.Text.Character
/-!
Settings: a text with variables for the program, one `NAME=value` to a line.

A name may stand behind the word `export`. A value may have parts in quotes, and a quoted part may
go on over several lines; outside quotes a blank ends the value, and only a comment may follow.
Outside single quotes a dollar sign and a name, in braces or not, stand for the value of a variable.
The first line that is not of this form ends the settings, those before it count.
-/

namespace RowQuery

/-- A piece of a value. -/
inductive Piece where
  | char (c : Char)
  /-- What the variable of a name holds. -/
  | reference (name : String)
deriving DecidableEq, Repr

/-- A variable and its value. -/
structure Setting where
  name : String
  value : List Piece
deriving DecidableEq, Repr

namespace Settings

/-! ### Lines -/

/-- The text in lines that keep their line feeds; the line read so far is given last character
first. -/
def lines (begun : List Char) : List Char → List (List Char)
  | [] => if begun.isEmpty then [] else [begun.reverse]
  | c :: rest =>
    if c = '\n' then (c :: begun).reverse :: lines [] rest else lines (c :: begun) rest

/-- A line without its line end. -/
def withoutEnd (line : List Char) : List Char :=
  match line.reverse with
  | '\n' :: '\r' :: r => r.reverse
  | '\n' :: r => r.reverse
  | _ => line

/-- What the next character of a line stands in. -/
inductive Place where
  | plain
  /-- Directly after a blank. -/
  | blank
  | escaped
  | single
  | singleEscaped
  | double
  | doubleEscaped
deriving DecidableEq

namespace Place

/-- The place after a character that opens something, or that is plain. -/
def opened (c : Char) : Place :=
  if c = '\\' then escaped
  else if c = '"' then double
  else if c = '\x27' then single
  else plain

/-- The place after a character; none if the character begins a comment. A blank is forgotten after
one character of any kind. -/
def next? : Place → Char → Option Place
  | plain, c => some (if isBlank c && c != '\n' && c != '\r' then blank else opened c)
  | blank, c => if c = '#' then none else some (opened c)
  | escaped, _ => some plain
  | single, c => some (if c = '\\' then singleEscaped else if c = '\x27' then plain else single)
  | singleEscaped, _ => some single
  | double, c => some (if c = '\\' then doubleEscaped else if c = '"' then plain else double)
  | doubleEscaped, _ => some double

/-- The text before a comment, and the place after the whole text, none in a comment. -/
def scan (p : Place) : List Char → List Char × Option Place
  | [] => ([], some p)
  | c :: rest =>
    match p.next? c with
    | none => ([], none)
    | some p =>
      let (kept, last) := scan p rest
      (c :: kept, last)

end Place

/-- Whether a text is a comment from its first character on that is not blank. -/
def isComment (s : List Char) : Bool := (s.dropWhile isBlank).head? == some '#'

/-- The entries that lines make up: a line that ends inside of something goes on with the next one,
and is none if there is no next one. -/
def entries (p : Place) (begun : List Char) : List (List Char) → List (Option (List Char))
  | [] => if p = .plain then [] else [none]
  | line :: rest =>
    if isComment (begun ++ line) then some [] :: entries .plain [] rest
    else match p.scan line with
      | (kept, none) => some (begun ++ kept) :: entries .plain [] rest
      | (_, some .plain) => some (withoutEnd (begun ++ line)) :: entries .plain [] rest
      | (_, some p) => entries p (begun ++ line) rest

/-! ### Values -/

/-- What the next character of a value stands in; `quoted` says whether that is inside double
quotes. -/
inductive Mode where
  | text (quoted : Bool)
  | escaped (quoted : Bool)
  | single
  /-- After a dollar sign, with the name so far, last character first. Such a name has letters and
  digits only. -/
  | reference (quoted : Bool) (name : List Char)
  /-- The same in braces. -/
  | braced (quoted : Bool) (name : List Char)
  /-- After a blank that ended the value. -/
  | ended

/-- The reference to a name that was read last character first. -/
def referenceTo (name : List Char) : Piece := .reference (String.ofList name.reverse)

/-- The pieces at the end of a value: quotes and braces must be closed. -/
def Mode.finish? : Mode → Option (List Piece)
  | text false | escaped false | ended => some []
  | reference false name => some [referenceTo name]
  | text true | escaped true | reference true _ | single | braced _ _ => none

/-- The character that one after a backslash stands for. -/
def escape? (c : Char) : Option Char :=
  if c = '\\' ∨ c = '\x27' ∨ c = '"' ∨ c = '$' ∨ c = ' ' then some c
  else if c = 'n' then some '\n'
  else none

/-- The pieces of a value. A character that ends a name after a dollar sign stands for itself,
unless it is another dollar sign. -/
def pieces? : Mode → List Char → Option (List Piece)
  | mode, [] => mode.finish?
  | .text quoted, c :: rest =>
    if c = '$' then pieces? (.reference quoted []) rest
    else if c = '"' then pieces? (.text !quoted) rest
    else if c = '\\' then pieces? (.escaped quoted) rest
    else if !quoted && c == '\x27' then pieces? .single rest
    else if !quoted && (c == ' ' || c == '\t') then pieces? .ended rest
    else (pieces? (.text quoted) rest).map (.char c :: ·)
  | .escaped quoted, c :: rest => do
    let e ← escape? c
    let more ← pieces? (.text quoted) rest
    some (.char e :: more)
  | .single, c :: rest =>
    if c = '\x27' then pieces? (.text false) rest else (pieces? .single rest).map (.char c :: ·)
  | .reference quoted name, c :: rest =>
    if Alphanumeric.isAlphanumeric c then pieces? (.reference quoted (c :: name)) rest
    else if c = '{' ∧ name = [] then pieces? (.braced quoted []) rest
    else if c = '$' then (pieces? (.reference quoted []) rest).map (referenceTo name :: ·)
    else (pieces? (.text quoted) rest).map fun more => referenceTo name :: .char c :: more
  | .braced quoted name, c :: rest =>
    if c = '}' then (pieces? (.text quoted) rest).map (referenceTo name :: ·)
    else pieces? (.braced quoted (c :: name)) rest
  | .ended, c :: rest =>
    if c = ' ' ∨ c = '\t' then pieces? .ended rest else if c = '#' then some [] else none

/-! ### Settings -/

/-- The characters of names. -/
def isNameChar (c : Char) : Bool := c.isAlphanum || c == '_' || c == '.'

/-- A name and the text after it and the blanks behind it. -/
def name? (s : List Char) : Option (String × List Char) :=
  match s with
  | [] => none
  | c :: _ =>
    if c.isAlpha || c == '_' then
      some (String.ofList (s.takeWhile isNameChar), (s.dropWhile isNameChar).dropWhile isBlank)
    else none

/-- The text after an equals sign and the blanks behind it. -/
def afterEquals? : List Char → Option (List Char)
  | '=' :: rest => some (rest.dropWhile isBlank)
  | _ => none

/-- The name of a setting and the text of its value. The word `export` is a name of its own if an
equals sign follows it. -/
def assignment? (s : List Char) : Option (String × List Char) := do
  let (name, rest) ← name? s
  match afterEquals? rest with
  | some value => some (name, value)
  | none =>
    if name = "export" then
      let (name, rest) ← name? rest
      some (name, ← afterEquals? rest)
    else none

/-- What an entry says: nothing within if it is empty or a comment, none at all if it is not of the
form of a setting. -/
def entry? (line : List Char) : Option (Option Setting) :=
  let s := trimBlanks line
  if s.isEmpty || isComment s then some none
  else do
    let (name, value) ← assignment? s
    if value.isEmpty || isComment value then some (some ⟨name, []⟩)
    else some (some ⟨name, ← pieces? (.text false) value⟩)

/-- The settings of entries, up to the first entry that is not of their form. -/
def ofEntries : List (Option (List Char)) → List Setting
  | [] | none :: _ => []
  | some line :: rest =>
    match entry? line with
    | none => []
    | some none => ofEntries rest
    | some (some setting) => setting :: ofEntries rest

/-- The settings of a text, which may begin with a byte order mark. -/
def ofText (text : String) : List Setting :=
  let s := match text.toList with
    | '\uFEFF' :: rest => rest
    | s => s
  ofEntries (entries .plain [] (lines [] s))

/-! ### Variables -/

/-- The value of a variable. -/
def lookup (set : List (String × String)) (name : String) : Option String :=
  (set.find? fun e => e.1 == name).map (·.2)

/-- The names of the variables that settings give or refer to. -/
def names (settings : List Setting) : List String :=
  settings.flatMap fun s => s.name :: s.value.filterMap fun
    | .char _ => none
    | .reference name => some name

/-- The text of a value; a variable that is not set is the empty text. -/
def valueText (set : List (String × String)) (value : List Piece) : String :=
  String.join (value.map fun
    | .char c => String.singleton c
    | .reference name => (lookup set name).getD "")

/-- The variables with those of the settings added in their order: a variable that is set keeps its
value. The null character cannot be in a value, and nothing is answered then. -/
def addTo? (set : List (String × String)) : List Setting → Option (List (String × String))
  | [] => some set
  | s :: rest =>
    if (lookup set s.name).isSome then addTo? set rest
    else
      let value := valueText set s.value
      if value.toList.contains '\x00' then none else addTo? (set ++ [(s.name, value)]) rest

end Settings
end RowQuery
