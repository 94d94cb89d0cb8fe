import RowQuery.Proofs.Outline.Scoped
import RowQuery.Proofs.Sql.Placeholders
import RowQuery.Proofs.Sql.Tree
/-!
Outlines of statements.

A text with placeholders says where values are bound, not which, so it is decided by the outline of
the pieces. The test that an operator is compiled to is decided by the outline of its value as far
as its own outline goes: a cast is chosen by the kind of a value and the type of the column, and
what a handler inlines comes from its configuration. Only the operators that test for null and for
truth write their value into the text.
-/

namespace RowQuery

namespace Sql

/-- The kind of a bound value, shown by a sample. -/
def Param.outline : Param → Param
  | .null => .null
  | .bool _ => .bool false
  | .int _ => .int 1
  | .float _ => .float .sample
  | .text _ => .text ""

/-- The outline of a bound value with its cast. -/
def Bound.outline (b : Bound) : Bound := ⟨b.value.outline, b.cast⟩

/-- The outline of an operand. -/
def Operand.outline : Operand → Operand
  | .column c => .column c
  | .bound b => .bound b.outline

/-- The outline of a test. The constant of a test for truth is no bound value. -/
def Test.outline : Test → Test
  | .compare op c v => .compare op c v.outline
  | .inList negated c vs => .inList negated c (vs.map Bound.outline)
  | .between negated c lower upper => .between negated c lower.outline upper.outline
  | .isNull negated c => .isNull negated c
  | .isBool negated c b => .isBool negated c b
  | .custom head rest => .custom head (rest.map fun e => (e.1.outline, e.2))

/-- The outline of a piece. -/
def Piece.outline : Piece → Piece
  | .text s => .text s
  | .bind p => .bind p.outline

/-! ### Texts -/

/-- The text does not depend on what is bound. -/
theorem Piece.number_outline (ps : List Piece) (next : Nat) :
    number next (ps.map outline) = number next ps := by
  induction ps generalizing next with
  | nil => rfl
  | cons p rest ih => cases p <;> simp only [List.map_cons, outline, number, ih]

theorem Piece.values_outline (ps : List Piece) :
    values (ps.map outline) = (values ps).map Param.outline := by
  induction ps with
  | nil => rfl
  | cons p rest ih =>
    cases p with
    | text s => exact ih
    | bind v => exact congrArg (v.outline :: ·) ih

theorem Piece.map_outline_separated (separator : String) (pss : List (List Piece)) :
    (separated separator pss).map outline = separated separator (pss.map (List.map outline)) := by
  induction pss with
  | nil => rfl
  | cons ps rest ih =>
    cases rest with
    | nil => rfl
    | cons qs rest =>
      simp only [separated, List.map_append, List.map_cons, outline] at ih ⊢
      rw [ih]

theorem Bound.pieces_outline (b : Bound) : b.outline.pieces = b.pieces.map Piece.outline := by
  obtain ⟨v, cast⟩ := b
  cases cast <;> rfl

theorem customPieces_outline (rest : List (Operand × String)) :
    customPieces (rest.map fun e => (e.1.outline, e.2))
      = (customPieces rest).map Piece.outline := by
  induction rest with
  | nil => rfl
  | cons e rest ih =>
    have hoperand : e.1.outline.pieces = e.1.pieces.map Piece.outline := by
      cases e.1 with
      | column c => rfl
      | bound b => exact b.pieces_outline
    rw [List.map_cons, customPieces, customPieces, ih, hoperand, List.map_append, List.map_cons]
    rfl

theorem Test.pieces_outline (t : Test) : t.outline.pieces = t.pieces.map Piece.outline := by
  cases t with
  | compare op c v =>
    simp only [outline, pieces, Bound.pieces_outline, List.map_cons, Piece.outline]
  | inList negated c vs =>
    have hmap : (vs.map Bound.outline).map Bound.pieces
        = (vs.map Bound.pieces).map (List.map Piece.outline) := by
      simp only [List.map_map, Function.comp_def, Bound.pieces_outline]
    simp only [outline, pieces, hmap, List.map_cons, List.map_append, List.map_nil, Piece.outline,
      Piece.map_outline_separated]
  | between negated c lower upper =>
    simp only [outline, pieces, Bound.pieces_outline, List.map_cons, List.map_append, Piece.outline]
  | isNull negated c => rfl
  | isBool negated c b => rfl
  | custom head rest =>
    simp only [outline, pieces, customPieces_outline, List.map_cons, Piece.outline]

theorem Test.standsAlone_outline (t : Test) : t.outline.standsAlone = t.standsAlone := by
  cases t with
  | compare op c v => cases op <;> rfl
  | inList | between | isNull | isBool | custom => rfl

/-- The outline of a condition. -/
def Condition.outline (c : Condition) : Condition := c.map Test.outline

namespace Condition

theorem needsBrackets_outline (c : Condition) : c.outline.needsBrackets = c.needsBrackets := by
  cases c with
  | test t => exact congrArg (!·) t.standsAlone_outline
  | group | all | any => rfl

mutual

theorem pieces_outline : (c : Condition) → c.outline.pieces = c.pieces.map Piece.outline
  | .test t => t.pieces_outline
  | .group c => by
    have ih := pieces_outline c
    simp only [outline, Tree.map, pieces, bracketed] at ih ⊢
    simp only [ih, List.map_cons, List.map_append, List.map_nil, Piece.outline]
  | .all cs => joined_outline " AND " cs
  | .any cs => joined_outline " OR " cs

theorem joined_outline (connective : String) : (cs : List Condition) →
    joined connective (Tree.mapAll Test.outline cs)
      = (joined connective cs).map Piece.outline
  | [] => rfl
  | [c] => by
    have ih := pieces_outline c
    have hbrackets := needsBrackets_outline c
    simp only [outline] at ih hbrackets
    simp only [Tree.mapAll, joined, bracketed, hbrackets, ih]
    split <;> simp only [List.map_cons, List.map_append, List.map_nil, Piece.outline]
  | c :: d :: rest => by
    have ih := pieces_outline c
    have hrest := joined_outline connective (d :: rest)
    have hbrackets := needsBrackets_outline c
    simp only [outline] at ih hbrackets
    simp only [Tree.mapAll] at hrest
    simp only [Tree.mapAll, joined, bracketed, hbrackets, ih, hrest]
    split <;> simp only [List.map_cons, List.map_append, List.map_nil, Piece.outline]

end
end Condition

/-- Statements with one text, and values of one kind in every place. -/
def Prepared.SameOutline (p q : Prepared) : Prop :=
  p.sql = q.sql ∧ p.params.map Param.outline = q.params.map Param.outline

theorem Piece.render_sameOutline {ps qs : List Piece} (h : ps.map outline = qs.map outline) :
    (render ps).SameOutline (render qs) := by
  constructor
  · rw [render, render, ← number_outline ps, h, number_outline]
  · have hvalues : (values ps).map Param.outline = (values qs).map Param.outline := by
      rw [← values_outline, h, values_outline]
    exact hvalues

/-- Rows with one table, one alias and the same joins, whose conditions have one outline. -/
structure Rows.SameOutline (r s : Rows) : Prop where
  table : r.table = s.table
  aliasName : r.aliasName = s.aliasName
  joins : r.joins = s.joins
  condition : r.condition.map Condition.outline = s.condition.map Condition.outline

section
variable {r s : Rows} (h : r.SameOutline s)
include h

theorem Rows.SameOutline.sourcePieces :
    r.sourcePieces.map Piece.outline = s.sourcePieces.map Piece.outline := by
  obtain ⟨table, aliasName, joins, condition⟩ := r
  obtain ⟨table', aliasName', joins', condition'⟩ := s
  obtain ⟨rfl, rfl, rfl, hcondition⟩ := h
  simp only [Rows.sourcePieces, List.map_cons, List.cons.injEq, true_and]
  cases condition <;> cases condition' <;>
    simp only [Option.map_none, Option.map_some, reduceCtorEq, Option.some.injEq] at hcondition
  · rfl
  · simp only [wherePieces, List.map_cons, ← Condition.pieces_outline, hcondition]

theorem Rows.SameOutline.pieces : r.pieces.map Piece.outline = s.pieces.map Piece.outline := by
  simp only [Rows.pieces, List.map_cons, h.sourcePieces, h.joins, h.aliasName]

/-- Row statements that differ in the values of their conditions only. -/
theorem RowStatement.sameOutline (sort : SortOrder) (limit : Option Nat) (offset : Nat) :
    (RowStatement.mk r sort limit offset).prepared.SameOutline
      (RowStatement.mk s sort limit offset).prepared := by
  refine Piece.render_sameOutline ?_
  simp only [RowStatement.pieces, List.map_append, h.pieces, h.aliasName]

/-- Summaries that differ in the values of their conditions only. -/
theorem Summary.sameOutline (sourceName : String) (items : List Item) (groupBy : List Column) :
    (Summary.mk r sourceName items groupBy).prepared.SameOutline
      (Summary.mk s sourceName items groupBy).prepared := by
  refine Piece.render_sameOutline ?_
  have hsource : (Summary.mk r sourceName items groupBy).sourcePieces.map Piece.outline
      = (Summary.mk s sourceName items groupBy).sourcePieces.map Piece.outline := by
    simp only [Summary.sourcePieces, h.joins]
    split
    · exact h.sourcePieces
    · simp only [List.map_cons, List.map_append, h.pieces]
  simp only [Summary.pieces, List.map_cons, List.map_append, hsource, Summary.groupText]

end
end Sql
end RowQuery
