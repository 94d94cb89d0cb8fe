import RowQuery.Sql.Statement
/-!
The text of statements.

A statement is first a list of pieces, fixed texts and bound values in the order in which they
stand. `render` then numbers the bound values from `$1` upwards and lists them, so the placeholders
and the values cannot drift apart.
-/

namespace RowQuery.Sql

/-- A piece of a statement: a fixed text or a bound value. -/
inductive Piece where
  | text (s : String)
  | bind (p : Param)
deriving DecidableEq

/-- A statement ready to run: its text with numbered placeholders and the values to bind. -/
structure Prepared where
  sql : String
  params : List Param
deriving DecidableEq

namespace Piece

/-- The text of pieces whose first bound value has the number `next`. -/
def number (next : Nat) : List Piece → String
  | [] => ""
  | .text s :: rest => s ++ number next rest
  | .bind _ :: rest => "$" ++ next.repr ++ number (next + 1) rest

/-- The bound value of a piece, if it is one. -/
def param? : Piece → Option Param
  | .text _ => none
  | .bind p => some p

/-- Numbers the bound values of pieces from one. -/
def render (pieces : List Piece) : Prepared := ⟨number 1 pieces, pieces.filterMap param?⟩

/-- Lists of pieces with a text between any two of them. -/
def separated (separator : String) : List (List Piece) → List Piece
  | [] => []
  | [ps] => ps
  | ps :: qs :: rest => ps ++ .text separator :: separated separator (qs :: rest)

end Piece

/-- An identifier in quotes; a quote inside it is doubled. -/
def quoted (name : String) : String :=
  String.ofList ('"' :: (name.toList.flatMap fun c => if c = '"' then ['"', '"'] else [c]) ++ ['"'])

/-- A column with the alias of its table. -/
def Column.text (c : Column) : String := quoted c.table ++ "." ++ quoted c.name

/-- A placeholder, in a cast if the value has one. -/
def Bound.pieces (b : Bound) : List Piece :=
  match b.cast with
  | none => [.bind b.value]
  | some type => [.text "CAST(", .bind b.value, .text (" AS " ++ type ++ ")")]

/-- The sign of a comparison. -/
def Comparator.text : Comparator → String
  | eq => "="
  | ne => "<>"
  | gt => ">"
  | ge => ">="
  | lt => "<"
  | le => "<="
  | like => "LIKE"
  | notLike => "NOT LIKE"
  | ilike => "ILIKE"
  | notIlike => "NOT ILIKE"

/-- The pieces of an operand. -/
def Operand.pieces : Operand → List Piece
  | .column c => [.text c.text]
  | .bound b => b.pieces

/-- The pieces of a custom test after its head. -/
def customPieces : List (Operand × String) → List Piece
  | [] => []
  | (operand, text) :: rest => operand.pieces ++ .text text :: customPieces rest

/-- The keyword `NOT` in front of a negated operator. -/
def negation (negated : Bool) : String := if negated then "NOT " else ""

namespace Test

/-- The pieces of a test. -/
def pieces : Test → List Piece
  | compare op c v => .text (c.text ++ " " ++ op.text ++ " ") :: v.pieces
  | inList negated c vs =>
    .text (c.text ++ " " ++ negation negated ++ "IN (") ::
      (Piece.separated ", " (vs.map Bound.pieces) ++ [.text ")"])
  | between negated c lower upper =>
    .text (c.text ++ " " ++ negation negated ++ "BETWEEN ") ::
      (lower.pieces ++ .text " AND " :: upper.pieces)
  | isNull negated c => [.text (c.text ++ " IS " ++ negation negated ++ "NULL")]
  | isBool negated c b =>
    [.text (c.text ++ " IS " ++ negation negated ++ (if b then "TRUE" else "FALSE"))]
  | custom head rest => .text head :: customPieces rest

/-- Whether a test stands beside AND and OR without brackets: the signs of equality and order, IN,
LIKE and the test for null bind closer, the others are bracketed. -/
def standsAlone : Test → Bool
  | compare .ilike _ _ | compare .notIlike _ _ => false
  | compare _ _ _ | inList _ _ _ | isNull _ _ => true
  | between _ _ _ _ | isBool _ _ _ | custom _ _ => false

end Test

namespace Condition

/-- Pieces in brackets. -/
def bracketed (ps : List Piece) : List Piece := .text "(" :: (ps ++ [.text ")"])

/-- Whether a condition beside AND or OR has to be bracketed. -/
def needsBrackets : Condition → Bool
  | .test t => !t.standsAlone
  | .group _ => false
  | .all _ | .any _ => true

mutual

/-- The pieces of a condition. -/
def pieces : Condition → List Piece
  | .test t => t.pieces
  | .group c => bracketed (pieces c)
  | .all cs => joined " AND " cs
  | .any cs => joined " OR " cs

/-- The pieces of conditions with a connective between any two of them. -/
def joined (connective : String) : List Condition → List Piece
  | [] => []
  | [c] => if c.needsBrackets then bracketed (pieces c) else pieces c
  | c :: d :: rest =>
    (if c.needsBrackets then bracketed (pieces c) else pieces c)
      ++ .text connective :: joined connective (d :: rest)

end

end Condition

/-- The text of a join. -/
def Join.text (j : Join) : String :=
  (match j.kind with | .left => " LEFT JOIN " | .inner => " INNER JOIN ")
    ++ quoted j.table ++ " AS " ++ quoted j.aliasName
    ++ " ON " ++ j.owner.text ++ " = " ++ j.joined.text

/-- The pieces of an optional condition, after its keyword. -/
def wherePieces : Option Condition → List Piece
  | none => []
  | some c => .text " WHERE " :: c.pieces

namespace Rows

/-- The source of rows: the table, its joins and the condition. -/
def sourcePieces (r : Rows) : List Piece :=
  .text (" FROM " ++ quoted r.table ++ " AS " ++ quoted r.aliasName
      ++ String.join (r.joins.map Join.text))
    :: wherePieces r.condition

/-- The query of all columns of the base table. -/
def pieces (r : Rows) : List Piece :=
  .text ("SELECT " ++ (if r.joins.isEmpty then "" else "DISTINCT ") ++ quoted r.aliasName ++ ".*")
    :: r.sourcePieces

end Rows

/-- One field of an ORDER BY. -/
def orderText (aliasName : String) (s : SortField) : String :=
  (Column.mk aliasName s.field).text ++ " " ++ s.direction.keyword
    ++ (match s.nulls with | none => "" | some n => " " ++ n.keywords)

/-- The ORDER BY of a sort, empty for an empty sort. -/
def orderByText (aliasName : String) (sort : SortOrder) : String :=
  if sort.isEmpty then "" else " ORDER BY " ++ ", ".intercalate (sort.map (orderText aliasName))

namespace RowStatement

/-- The pieces of a statement. A zero offset is left out. -/
def pieces (s : RowStatement) : List Piece :=
  s.rows.pieces ++ [.text (orderByText s.rows.aliasName s.sort)]
    ++ (match s.limit with | none => [] | some n => [.text " LIMIT ", .bind (.int n)])
    ++ (if s.offset = 0 then [] else [.text " OFFSET ", .bind (.int s.offset)])

/-- The statement ready to run. -/
def prepared (s : RowStatement) : Prepared := Piece.render s.pieces

end RowStatement

/-- The text of an item. -/
def Item.text : Item → String
  | countAll => "COUNT(*)"
  | column c name => c.text ++ " AS " ++ quoted name
  | call function c name => function ++ "(" ++ c.text ++ ") AS " ++ quoted name

namespace Summary

/-- The source of a summary: the rows themselves, or the distinct rows in a query of their own. -/
def sourcePieces (s : Summary) : List Piece :=
  if s.rows.joins.isEmpty then s.rows.sourcePieces
  else .text " FROM (" :: (s.rows.pieces ++ [.text (") AS " ++ quoted s.sourceName)])

/-- The grouping of a summary and the order of its groups. -/
def groupText (s : Summary) : String :=
  if s.groupBy.isEmpty then ""
  else " GROUP BY " ++ ", ".intercalate (s.groupBy.map Column.text)
    ++ " ORDER BY " ++ ", ".intercalate (s.groupBy.map fun c => c.text ++ " ASC")

/-- The pieces of a summary. -/
def pieces (s : Summary) : List Piece :=
  .text ("SELECT " ++ ", ".intercalate (s.items.map Item.text))
    :: (s.sourcePieces ++ [.text s.groupText])

/-- The summary ready to run. -/
def prepared (s : Summary) : Prepared := Piece.render s.pieces

end Summary
end RowQuery.Sql
