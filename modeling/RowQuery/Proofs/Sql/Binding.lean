import RowQuery.Proofs.Compiler
import RowQuery.Proofs.Filter.Agreement
import RowQuery.Proofs.Filter.Tests
/-!
Placeholders and values in step.

The text of a statement is cut into segments: fixed texts, the operators of the filter, and the
clauses of the window. Each segment is written with the numbers of the values that it binds itself,
and the values of a statement are those of its segments one after another. So a placeholder stands
in the operator whose value it is.
-/

namespace RowQuery

open Scoped (Leaf Site)

namespace Sql

/-- A part of the text of a statement. -/
inductive Segment where
  | fixed (text : String)
  /-- An operator of the filter, with the test it is compiled to. -/
  | operator (leaf : Leaf)
  /-- A clause of the window: a keyword and a bound number. -/
  | clause (keyword : String) (n : Nat)

namespace Segment

/-- The pieces of a segment. -/
def pieces : Segment → List Piece
  | fixed s => [.text s]
  | operator l => l.test.pieces
  | clause keyword n => [.text keyword, .bind (.int n)]

/-- The values that a segment binds. -/
def values (s : Segment) : List Param := Piece.values s.pieces

/-- The operator of a segment, if it is one. -/
def leaf? : Segment → Option Leaf
  | operator l => some l
  | fixed _ | clause _ _ => none

/-- Whether a segment belongs to the window. -/
def isClause : Segment → Bool
  | clause _ _ => true
  | fixed _ | operator _ => false

/-- The text of segments: each is written with the numbers of its own values. -/
def write (next : Nat) : List Segment → String
  | [] => ""
  | s :: rest => Piece.number next s.pieces ++ write (next + s.values.length) rest

theorem write_eq_number (segments : List Segment) (next : Nat) :
    write next segments = Piece.number next (segments.flatMap pieces) := by
  induction segments generalizing next with
  | nil => rfl
  | cons s rest ih => rw [write, ih, List.flatMap_cons, Piece.number_append, values]

/-- The clauses of a window: the limit, then the offset unless it is zero. -/
def window (limit : Option Nat) (offset : Nat) : List Segment :=
  (match limit with | none => [] | some n => [clause " LIMIT " n])
    ++ if offset = 0 then [] else [clause " OFFSET " offset]

end Segment

open Segment

/-- The placeholders of a statement are numbered from one upwards, one for each value. Its text is
made of segments, of which the operators are those of some leaves in their order and the window
comes last, and its values are those of the segments, each under the numbers that its own text
has. -/
structure Prepared.InStep (p : Prepared) (leaves : List Leaf) (window : List Segment) : Prop where
  placeholders : placeholders false p.sql.toList = numbered 1 p.params.length
  segments : ∃ body : List Segment,
    write 1 (body ++ window) = p.sql ∧
    (body ++ window).flatMap values = p.params ∧
    body.filterMap leaf? = leaves ∧
    (∀ s ∈ body, s.isClause = false) ∧
    ∀ s ∈ body ++ window, ∀ next,
      Sql.placeholders false (Piece.number next s.pieces).toList = numbered next s.values.length

/-! ### Pieces and the operators in them -/

/-- Pieces that are fixed texts and the tests of some leaves, in their order. -/
def Piece.Hold (ps : List Piece) (leaves : List Leaf) : Prop :=
  ∃ body : List Segment, body.flatMap Segment.pieces = ps ∧ body.filterMap leaf? = leaves ∧
    ∀ s ∈ body, s.isClause = false ∧ AreFixed s.pieces

namespace Piece

theorem hold_nil : Hold [] [] := ⟨[], rfl, rfl, List.forall_mem_nil _⟩

theorem Hold.append {ps qs : List Piece} {ls ms : List Leaf} (hp : Hold ps ls) (hq : Hold qs ms) :
    Hold (ps ++ qs) (ls ++ ms) := by
  obtain ⟨body, rfl, rfl, hbody⟩ := hp
  obtain ⟨body', rfl, rfl, hbody'⟩ := hq
  refine ⟨body ++ body', List.flatMap_append, List.filterMap_append, fun s hs => ?_⟩
  exact (List.mem_append.1 hs).elim (hbody s) (hbody' s)

theorem hold_text {s : String} (hs : IsFixed s) : Hold [.text s] [] :=
  ⟨[.fixed s], rfl, rfl, List.forall_mem_singleton.2 ⟨rfl, areFixed_text hs areFixed_nil⟩⟩

theorem Hold.text {s : String} {ps : List Piece} {ls : List Leaf} (hs : IsFixed s)
    (hp : Hold ps ls) : Hold (.text s :: ps) ls := (hold_text hs).append hp

theorem hold_leaf {l : Leaf} (h : AreFixed l.test.pieces) : Hold l.test.pieces [l] :=
  ⟨[.operator l], List.flatMap_singleton .., rfl, List.forall_mem_singleton.2 ⟨rfl, h⟩⟩

/-- A statement of such pieces and a window is in step. -/
theorem Hold.inStep {ps : List Piece} {leaves : List Leaf} (h : Hold ps leaves)
    (limit : Option Nat) (offset : Nat) :
    (render (ps ++ (Segment.window limit offset).flatMap Segment.pieces)).InStep leaves
      (Segment.window limit offset) := by
  obtain ⟨body, rfl, hleaves, hbody⟩ := h
  have hwindow : ∀ s ∈ Segment.window limit offset, AreFixed s.pieces := by
    intro s hs
    have hclause : ∃ keyword n, s = .clause keyword n ∧ IsFixed keyword := by
      simp only [Segment.window, List.mem_append] at hs
      rcases hs with hs | hs
      · cases limit with
        | none => cases hs
        | some n => exact ⟨_, n, List.mem_singleton.1 hs, by decide⟩
      · split at hs
        · cases hs
        · exact ⟨_, offset, List.mem_singleton.1 hs, by decide⟩
    obtain ⟨keyword, n, rfl, hkeyword⟩ := hclause
    exact areFixed_text hkeyword (areFixed_bind areFixed_nil)
  have hall : ∀ s ∈ body ++ Segment.window limit offset, AreFixed s.pieces := fun s hs =>
    (List.mem_append.1 hs).elim (fun h => (hbody s h).2) (hwindow s)
  have hpieces : (body ++ Segment.window limit offset).flatMap Segment.pieces
      = body.flatMap Segment.pieces ++ (Segment.window limit offset).flatMap Segment.pieces :=
    List.flatMap_append
  rw [← hpieces]
  constructor
  · refine AreFixed.placeholders_eq (fun t ht => ?_) 1
    obtain ⟨s, hs, ht⟩ := List.mem_flatMap.1 ht
    exact hall s hs t ht
  -- the segments are numbered one after another, which numbers their pieces together
  · exact ⟨body, write_eq_number .., (values_flatMap ..).symm, hleaves, fun s hs => (hbody s hs).1,
      fun s hs next => (hall s hs).placeholders_eq next⟩

end Piece

/-! ### Texts of tests -/

theorem isFixed_column (c : Column) : IsFixed c.text :=
  ((IsFixed.quoted _).append (by decide)).append (IsFixed.quoted _)

/-- The text of a plain identifier has neither quotes nor dollar signs. -/
theorem isFixed_of_isSafe {name : String} (h : PathEq.isSafe name = true) : IsFixed name := by
  obtain ⟨c, rest, hname, hdigit, hword⟩ := PathEq.wordChars_of_isSafe h
  have hinside : ∀ cs : List Char, (∀ d ∈ cs, PathEq.isWordChar d = true) →
      placeholders false cs = [] ∧ endsInName false cs = false := by
    intro cs hcs
    induction cs with
    | nil => exact ⟨rfl, rfl⟩
    | cons d rest ih =>
      obtain ⟨hd, hrest⟩ := List.forall_mem_cons.1 hcs
      have hquote : d ≠ '"' := by rintro rfl; exact absurd hd (by decide)
      have hdollar : d ≠ '$' := by rintro rfl; exact absurd hd (by decide)
      simpa [placeholders, endsInName, hquote, hdollar] using ih hrest
  obtain ⟨hplaceholders, hends⟩ := hinside _ hword
  refine ⟨hplaceholders, hends, ?_⟩
  rw [hname]
  exact fun d hd => Option.some.inj hd ▸ hdigit

theorem areFixed_bound {b : Bound} (h : b.HasKnownCast) : Piece.AreFixed b.pieces := by
  obtain ⟨v, cast⟩ := b
  cases cast with
  | none => exact Piece.areFixed_bind Piece.areFixed_nil
  | some type =>
    obtain ⟨column, hcolumn⟩ := h type rfl
    have htype : IsFixed (" AS " ++ type ++ ")") := by
      cases column <;> cases hcolumn <;> decide
    exact Piece.areFixed_text (by decide)
      (Piece.areFixed_bind (Piece.areFixed_text htype Piece.areFixed_nil))

theorem isFixed_comparator (op : Comparator) : IsFixed op.text := by
  cases op <;> decide

theorem isFixed_negation (negated : Bool) : IsFixed (negation negated) := by
  cases negated <;> decide

/-- A column, a keyword that may be negated and what follows. -/
theorem isFixed_negated (c : Column) (negated : Bool) {before after : String}
    (hbefore : IsFixed before) (hafter : IsFixed after) :
    IsFixed (c.text ++ before ++ negation negated ++ after) :=
  (((isFixed_column c).append hbefore).append (isFixed_negation negated)).append hafter

theorem areFixed_custom {c : Column} {v : Param} {head middle last : String} (hhead : IsFixed head)
    (hmiddle : IsFixed middle) (hlast : IsFixed last) :
    Piece.AreFixed (Test.custom head [(.column c, middle), (.bound ⟨v, none⟩, last)]).pieces :=
  Piece.areFixed_text hhead (Piece.areFixed_text (isFixed_column c)
    (Piece.areFixed_text hmiddle (Piece.areFixed_bind
      (Piece.areFixed_text hlast Piece.areFixed_nil))))

theorem Test.IsCompiled.areFixed {t : Test} (h : t.IsCompiled) : Piece.AreFixed t.pieces := by
  cases h with
  | compare op c hv =>
    refine Piece.areFixed_text ?_ (areFixed_bound hv)
    exact (((isFixed_column c).append (by decide)).append (isFixed_comparator op)).append
      (by decide)
  | inList negated c hne hvs =>
    refine Piece.areFixed_text (isFixed_negated c negated (by decide) (by decide)) (.append ?_ ?_)
    · refine Piece.areFixed_separated (by decide) fun ps hps => ?_
      obtain ⟨b, hb, rfl⟩ := List.mem_map.1 hps
      exact areFixed_bound (hvs b hb)
    · exact Piece.areFixed_text (by decide) Piece.areFixed_nil
  | between negated c hlower hupper =>
    refine Piece.areFixed_text (isFixed_negated c negated (by decide) (by decide))
      ((areFixed_bound hlower).append (Piece.areFixed_text (by decide) (areFixed_bound hupper)))
  | isNull negated c =>
    exact Piece.areFixed_text (isFixed_negated c negated (by decide) (by decide))
      Piece.areFixed_nil
  | isBool negated c b =>
    exact Piece.areFixed_text
      (isFixed_negated c negated (by decide) (by cases b <;> decide)) Piece.areFixed_nil
  | multiple c divisor => exact areFixed_custom (by decide) (by decide) (by decide)
  | contained c items => exact areFixed_custom (by decide) (by decide) (by decide)
  | extracted c hkeys value =>
    have hpath : IsFixed (" #>> '\x7b" ++ ",".intercalate _ ++ "\x7d' = ") :=
      (IsFixed.append (by decide)
        (IsFixed.intercalate (by decide) fun k hk => isFixed_of_isSafe (hkeys k hk))).append
        (by decide)
    exact areFixed_custom (by decide) hpath (by decide)

/-! ### Texts of conditions -/

theorem hold_bracketed {ps : List Piece} {ls : List Leaf} (h : Piece.Hold ps ls) :
    Piece.Hold (Condition.bracketed ps) ls := by
  simpa [Condition.bracketed] using
    (h.append (Piece.hold_text (s := ")") (by decide))).text (s := "(") (by decide)

theorem hold_operand {c : Condition} {ls : List Leaf} (h : Piece.Hold c.pieces ls) :
    Piece.Hold (if c.needsBrackets then Condition.bracketed c.pieces else c.pieces) ls := by
  split
  · exact hold_bracketed h
  · exact h

mutual

/-- The operators in the text of a condition are its leaves in their order. -/
theorem hold_condition : (u : Tree Leaf) → (∀ l ∈ u.leaves, l.test.IsCompiled) →
    Piece.Hold (Condition.pieces (u.map Leaf.test)) u.leaves
  | .test l, h => Piece.hold_leaf (h l (List.mem_singleton_self l)).areFixed
  | .group c, h => by
    rw [Tree.map, Condition.pieces]
    exact hold_bracketed (hold_condition c h)
  | .all cs, h => hold_joined (by decide) cs h
  | .any cs, h => hold_joined (by decide) cs h

theorem hold_joined {connective : String} (hconnective : IsFixed connective) :
    (cs : List (Tree Leaf)) → (∀ l ∈ Tree.leavesAll cs, l.test.IsCompiled) →
    Piece.Hold (Condition.joined connective (Tree.mapAll Leaf.test cs)) (Tree.leavesAll cs)
  | [], _ => Piece.hold_nil
  | [c], h => by
    simp only [Tree.leavesAll, List.append_nil] at h ⊢
    exact hold_operand (hold_condition c h)
  | c :: d :: rest, h => by
    obtain ⟨hc, hrest⟩ := Tree.forall_leavesAll_cons.1 h
    exact (hold_operand (hold_condition c hc)).append
      ((hold_joined hconnective (d :: rest) hrest).text hconnective)

end

/-! ### Texts of statements -/

theorem isFixed_join (j : Join) : IsFixed j.text := by
  unfold Join.text
  refine (((((IsFixed.append (IsFixed.append ?_ (.quoted _)) (by decide)).append (.quoted _)).append
    (by decide)).append (isFixed_column _)).append (by decide)).append (isFixed_column _)
  split <;> decide

theorem isFixed_order (aliasName : String) (s : SortField) : IsFixed (orderText aliasName s) := by
  have hdirection : IsFixed s.direction.keyword := by
    cases s.direction <;> decide
  unfold orderText
  refine (((isFixed_column _).append (by decide)).append hdirection).append ?_
  split
  · decide
  · rename_i n _
    cases n <;> decide

theorem isFixed_orderBy (aliasName : String) (sort : SortOrder) :
    IsFixed (orderByText aliasName sort) := by
  unfold orderByText
  split
  · decide
  · refine IsFixed.append (by decide) (IsFixed.intercalate (by decide) fun s hs => ?_)
    obtain ⟨f, -, rfl⟩ := List.mem_map.1 hs
    exact isFixed_order aliasName f

theorem isFixed_group (s : Summary) : IsFixed s.groupText := by
  unfold Summary.groupText
  split
  · decide
  · refine (((IsFixed.append (by decide) (IsFixed.intercalate (by decide) fun t ht => ?_)).append
      (by decide)).append (IsFixed.intercalate (by decide) fun t ht => ?_))
    · obtain ⟨c, -, rfl⟩ := List.mem_map.1 ht
      exact isFixed_column c
    · obtain ⟨c, -, rfl⟩ := List.mem_map.1 ht
      exact (isFixed_column c).append (by decide)

/-- The name of a function that an item calls is fixed. -/
def Item.IsFixed : Item → Prop
  | .countAll | .column _ _ => True
  | .call function _ _ => Sql.IsFixed function

theorem Item.IsFixed.text {i : Item} (h : i.IsFixed) : Sql.IsFixed i.text := by
  cases i with
  | countAll => decide
  | column c name => exact ((isFixed_column c).append (by decide)).append (.quoted _)
  | call function c name =>
    exact (((Sql.IsFixed.append h (by decide)).append (isFixed_column c)).append
      (by decide)).append (.quoted _)

section
variable {r : Rows} {t : Option (Tree Leaf)} (hr : r.condition = t.map (Tree.map Leaf.test))
  (h : ∀ u ∈ t, ∀ l ∈ u.leaves, l.test.IsCompiled)
include hr h

/-- The operators in the text of rows are the leaves of their condition in their order. -/
theorem hold_source : Piece.Hold r.sourcePieces (t.toList.flatMap Tree.leaves) := by
  refine Piece.Hold.text ?_ ?_
  · refine ((((IsFixed.append (by decide) (.quoted _)).append (by decide)).append
      (.quoted _)).append (IsFixed.join fun s hs => ?_))
    obtain ⟨j, -, rfl⟩ := List.mem_map.1 hs
    exact isFixed_join j
  · rw [hr]
    cases t with
    | none => exact Piece.hold_nil
    | some u =>
      simpa [wherePieces] using (hold_condition u (h u rfl)).text (s := " WHERE ") (by decide)

theorem hold_rows : Piece.Hold r.pieces (t.toList.flatMap Tree.leaves) := by
  refine Piece.Hold.text ?_ (hold_source hr h)
  refine ((IsFixed.append (by decide) ?_).append (.quoted _)).append (by decide)
  split <;> decide

/-- A row statement is in step. -/
theorem inStep_rowStatement (sort : SortOrder) (limit : Option Nat) (offset : Nat) :
    (RowStatement.mk r sort limit offset).prepared.InStep (t.toList.flatMap Tree.leaves)
      (window limit offset) := by
  have hbody := (hold_rows hr h).append (Piece.hold_text (isFixed_orderBy r.aliasName sort))
  rw [List.append_nil] at hbody
  have hpieces : (RowStatement.mk r sort limit offset).pieces
      = (r.pieces ++ [.text (orderByText r.aliasName sort)])
        ++ (window limit offset).flatMap Segment.pieces := by
    simp only [RowStatement.pieces, window, List.flatMap_append, List.append_assoc]
    by_cases hoffset : offset = 0 <;> simp only [hoffset, if_true, if_false] <;>
      cases limit <;> rfl
  rw [RowStatement.prepared, hpieces]
  exact hbody.inStep limit offset

/-- A summary is in step. -/
theorem inStep_summary {sourceName : String} {items : List Item} {groupBy : List Column}
    (hitems : ∀ i ∈ items, i.IsFixed) :
    (Summary.mk r sourceName items groupBy).prepared.InStep (t.toList.flatMap Tree.leaves) [] := by
  have hsource : Piece.Hold (Summary.mk r sourceName items groupBy).sourcePieces
      (t.toList.flatMap Tree.leaves) := by
    unfold Summary.sourcePieces
    split
    · exact hold_source hr h
    · have hclose : IsFixed (") AS " ++ quoted sourceName) :=
        IsFixed.append (by decide) (.quoted _)
      simpa using ((hold_rows hr h).append (Piece.hold_text hclose)).text (s := " FROM (")
        (by decide)
  have hselect : IsFixed ("SELECT " ++ ", ".intercalate (items.map Item.text)) := by
    refine IsFixed.append (by decide) (IsFixed.intercalate (by decide) fun s hs => ?_)
    obtain ⟨i, hi, rfl⟩ := List.mem_map.1 hs
    exact (hitems i hi).text
  have hbody := (hsource.append (Piece.hold_text (isFixed_group
    (Summary.mk r sourceName items groupBy)))).text hselect
  rw [List.append_nil] at hbody
  simpa [Summary.prepared, Summary.pieces, window] using hbody.inStep none 0

end
end Sql

/-! ### Requests -/

namespace Compiler

/-- A prepared statement is in step with the operators of a filter, of which each binds its own
values. -/
def InStep (c : Compiler) (name : String) (f : Filter) (p : Sql.Prepared)
    (window : List Sql.Segment) : Prop :=
  ∃ e t, c.catalog.find? name = some e ∧
    (f.scope c.catalog e).tree (Leaf.ofSite c.registry) e.tableAlias = .ok t ∧
    (∀ u ∈ t, ∀ l ∈ u.leaves, l.site.test c.registry = .ok l.test ∧
      l.site.Binds c.registry l.test.values) ∧
    p.InStep (t.toList.flatMap Sql.Tree.leaves) window

variable {c : Compiler}

/-- A statement about the rows of a filter is in step with the filter, if it is in step with the
leaves that the condition of the rows is made of. -/
theorem inStep_of_rows (hr : c.registry.HoldsBuiltIn) {name : String} {e : Entity} {f : Filter}
    {r : Sql.Rows} {p : Sql.Prepared} {window : List Sql.Segment}
    (he : c.catalog.find? name = some e) (h : c.rows e f = .ok r)
    (hp : ∀ t : Option (Sql.Tree Leaf), r.condition = t.map (Sql.Tree.map Leaf.test) →
      (∀ u ∈ t, ∀ l ∈ u.leaves, l.test.IsCompiled) →
      p.InStep (t.toList.flatMap Sql.Tree.leaves) window) : c.InStep name f p window := by
  obtain ⟨condition, hcondition, rfl⟩ := rows_eq_ok.1 h
  rw [Scoped.condition_eq_tree, map_eq_ok] at hcondition
  obtain ⟨t, ht, rfl⟩ := hcondition
  have hleaves : ∀ u ∈ t, ∀ l ∈ u.leaves, l.site.test c.registry = .ok l.test ∧
      l.test.IsCompiled ∧ l.site.Binds c.registry l.test.values := by
    rintro u rfl
    exact Scoped.isCompiled_of_tree hr ht
  exact ⟨e, t, he, ht, fun u hu l hl => ⟨(hleaves u hu l hl).1, (hleaves u hu l hl).2.2⟩,
    hp t rfl fun u hu l hl => (hleaves u hu l hl).2.1⟩

theorem isFixed_items (spec : Aggregate.Spec) (aliasName : String) :
    ∀ i ∈ spec.items aliasName, i.IsFixed := by
  intro i hi
  rcases List.mem_append.1 hi with hi | hi
  · obtain ⟨field, -, rfl⟩ := List.mem_map.1 hi
    trivial
  · obtain ⟨function, -, hi⟩ := List.mem_flatMap.1 hi
    obtain ⟨field, -, rfl⟩ := List.mem_map.1 hi
    have hname : Sql.IsFixed function.sqlName := by cases function <;> decide
    exact hname

/-- The placeholders and the values of every statement are in step. -/
theorem placeholders_in_step (hr : c.registry.HoldsBuiltIn) (name : String) :
    (∀ f sort limit offset q, c.many name f sort limit offset = .ok q →
      c.InStep name f q.statement.prepared (Sql.Segment.window limit offset)) ∧
    (∀ f sort arguments q, c.page name f sort arguments = .ok q →
      c.InStep name q.fetch.filter q.fetch.statement.prepared
        (Sql.Segment.window (some q.plan.fetchLimit) q.plan.fetchOffset)) ∧
    (∀ f q, c.count name f = .ok q → c.InStep name f q.statement.prepared []) ∧
    ∀ f spec q, c.aggregate name f spec = .ok q → c.InStep name f q.statement.prepared [] := by
  refine ⟨fun f sort limit offset q hq => ?_, fun f sort arguments q hq => ?_, fun f q hq => ?_,
    fun f spec q hq => ?_⟩
  · obtain ⟨e, rows, he, hrows, rfl⟩ := rows_of_many hq
    exact inStep_of_rows hr he hrows fun t ht h => Sql.inStep_rowStatement ht h ..
  · obtain ⟨e, rows, order, he, hrows, hfetch⟩ := rows_of_page hq
    refine inStep_of_rows hr he hrows fun t ht h => ?_
    rw [hfetch]
    exact Sql.inStep_rowStatement ht h ..
  · obtain ⟨e, rows, he, hrows, rfl⟩ := rows_of_count hq
    exact inStep_of_rows hr he hrows fun t ht h =>
      Sql.inStep_summary ht h (List.forall_mem_singleton.2 trivial)
  · obtain ⟨e, rows, he, hrows, rfl⟩ := rows_of_aggregate hq
    exact inStep_of_rows hr he hrows fun t ht h => Sql.inStep_summary ht h (isFixed_items spec _)

/-- Tasks with one of two titles and a sub-task that is due in a year. -/
theorem placeholders_in_step_titles :
    let sub : Entity := ⟨"sub_task", "sub_tasks", none, ["id"], [⟨"due", .date⟩], []⟩
    let relation : Relation := ⟨"subTasks", "sub_task", some "st", .left, "id", "task_id"⟩
    let task : Entity :=
      ⟨"task", "tasks", none, ["id"], [⟨"id", .integer⟩, ⟨"title", .text⟩], [relation]⟩
    let c : Compiler := ⟨⟨[task, sub]⟩, .empty, .standard⟩
    let f := Filter.allOf [.onField "title" .in (.list [.str "a", .str "b"]),
      .onRelation "subTasks"
        (.onField "due" .between (.range (.str "2024-01-01") (.str "2024-12-31")))]
    ∃ q, c.many "task" f [] (some 5) 2 = .ok q ∧
      q.statement.prepared.params
        = [.text "a", .text "b", .text "2024-01-01", .text "2024-12-31", .int 5, .int 2] ∧
      c.InStep "task" f q.statement.prepared (Sql.Segment.window (some 5) 2) := by
  intro sub relation task c f
  have hscope : f.scope c.catalog task = .node task
      [.node task [] [] [("title", .column [("in", .list [.str "a", .str "b"])])],
        .node task [] [] [("subTasks", .related relation sub (.node sub [] []
          [("due", .column [("between", .range (.str "2024-01-01") (.str "2024-12-31"))])]))]]
      [] [] := by
    simp only [f, Scope.scope_allOf, List.map_cons, List.map_nil,
      Scope.scope_onField (show task.relation? "title" = none from rfl),
      Scope.scope_onField (show sub.relation? "due" = none from rfl),
      Scope.scope_onRelation (show task.relation? "subTasks" = some relation from rfl)
        (show c.catalog.find? "sub_task" = some sub from rfl), Filter.Operator.name]
  obtain ⟨condition, hcondition, hvalues⟩ : ∃ condition,
      (f.scope c.catalog task).condition .empty "task" = .ok condition ∧
      Sql.Piece.values (Sql.wherePieces condition)
        = [.text "a", .text "b", .text "2024-01-01", .text "2024-12-31"] := by
    rw [hscope]
    exact ⟨_, rfl, rfl⟩
  let rows : Sql.Rows := ⟨"tasks", "task", (f.scope c.catalog task).joins "task", condition⟩
  have hrows : c.rows task f = .ok rows := rows_eq_ok.2 ⟨condition, hcondition, rfl⟩
  have hmany : c.many "task" f [] (some 5) 2 = .ok ⟨"task", f, rows, [], some 5, 2⟩ := by
    rw [many, show c.entity "task" = .ok task from rfl, ok_bind]
    simp only [show c.policy.check 5 = .ok 5 from rfl, ok_bind, select, hrows]
    rfl
  have hparams : (Sql.RowStatement.mk rows [] (some 5) 2).prepared.params
      = [.text "a", .text "b", .text "2024-01-01", .text "2024-12-31", .int 5, .int 2] := by
    change Sql.Piece.values (Sql.RowStatement.mk rows [] (some 5) 2).pieces = _
    simp [Sql.RowStatement.pieces, Sql.Rows.pieces, Sql.Rows.sourcePieces, rows, hvalues]
  exact ⟨_, hmany, hparams,
    (placeholders_in_step Registry.empty_holdsBuiltIn "task").1 f [] (some 5) 2 _ hmany⟩

end Compiler
end RowQuery
