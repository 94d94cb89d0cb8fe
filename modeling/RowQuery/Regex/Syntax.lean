/-!
Regular expressions, as far as the patterns of filters need them.

The text of an expression is read in two steps. Tokens first: a sign that means something by itself,
or a character that stands for itself because it is no sign or has a backslash before it. Then
nodes: what stands for one character, alone or with a star behind it, and the two ends of a text.
Groups, classes, choices and the other repetitions are left out; a text with one of them is not
read.
-/

namespace RowQuery.Regex

/-- What stands for one character. -/
inductive Atom where
  | any
  | char (c : Char)
deriving DecidableEq, Repr

/-- One node of an expression. -/
inductive Node where
  | start
  | stop
  | one (a : Atom)
  | many (a : Atom)
deriving DecidableEq, Repr

/-- One token of the text of an expression. -/
inductive Token where
  | start
  | stop
  | star
  | atom (a : Atom)
deriving DecidableEq, Repr

/-- The signs: characters that mean something in some place of an expression. -/
def signs : List Char :=
  ['\\', '.', '+', '*', '?', '(', ')', '|', '[', ']', '{', '}', '^', '$', '#', '&', '-', '~']

/-- Whether a character is a sign. -/
def isSign (c : Char) : Bool := signs.contains c

/-- The expression for a text taken literally. -/
def escape (text : List Char) : List Char :=
  text.flatMap fun c => if isSign c then ['\\', c] else [c]

/-- The token of a character without a backslash before it. Signs that mean something in other
places only, such as inside a class, stand for themselves. -/
def Token.ofChar? (c : Char) : Option Token :=
  if c = '^' then some .start
  else if c = '$' then some .stop
  else if c = '*' then some .star
  else if c = '.' then some (.atom .any)
  else if ['\\', '+', '?', '(', ')', '|', '[', '{'].contains c then none
  else some (.atom (.char c))

/-- The tokens of a text. A backslash takes a sign literally; what it does before any other
character is left out here. -/
def tokens? : List Char → Option (List Token)
  | [] => some []
  | '\\' :: c :: rest => if isSign c then (tokens? rest).map (.atom (.char c) :: ·) else none
  | c :: rest => (Token.ofChar? c).bind fun t => (tokens? rest).map (t :: ·)

/-- The nodes of some tokens. A star repeats what stands for one character. -/
def nodes? : List Token → Option (List Node)
  | [] => some []
  | .start :: rest => (nodes? rest).map (.start :: ·)
  | .stop :: rest => (nodes? rest).map (.stop :: ·)
  | .atom a :: .star :: rest => (nodes? rest).map (.many a :: ·)
  | .atom a :: rest => (nodes? rest).map (.one a :: ·)
  | .star :: _ => none

/-- The nodes of an expression given as a text. -/
def read? (text : List Char) : Option (List Node) := (tokens? text).bind nodes?

end RowQuery.Regex
