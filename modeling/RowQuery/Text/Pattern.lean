import RowQuery.Regex.Size
/-!
The patterns of the operator LIKE.

In a pattern `%` stands for any text, `_` for any one character and a backslash takes the next
character as it is; any other character stands for itself. A backslash at the very end stands for
nothing. A pattern is matched as a regular expression for the whole of a text.
-/

namespace RowQuery.Pattern

/-- The expression for a pattern, without the two ends of the text. -/
def translate : List Char → List Char
  | [] => []
  | ['\\'] => []
  | '\\' :: c :: rest => Regex.escape [c] ++ translate rest
  | '%' :: rest => '.' :: '*' :: translate rest
  | '_' :: rest => '.' :: translate rest
  | c :: rest => Regex.escape [c] ++ translate rest

/-- The expression for a pattern. -/
def expression (pattern : List Char) : List Char := '^' :: (translate pattern ++ ['$'])

/-- How patterns are matched: any character may be a line break. -/
def flags (anyCase : Bool) : Regex.Flags := ⟨anyCase, true⟩

/-- The regular expression of a pattern. -/
def regex (anyCase : Bool) (pattern : List Char) : Except Regex.Fault Regex :=
  Regex.build (flags anyCase) (expression pattern)

/-- The pattern that accepts a text literally. -/
def escape (text : List Char) : List Char :=
  text.flatMap fun c => if c = '\\' ∨ c = '%' ∨ c = '_' then ['\\', c] else [c]

end RowQuery.Pattern
