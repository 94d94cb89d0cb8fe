import RowQuery.Proofs.Compiler
import RowQuery.Proofs.Filter.Combination
import RowQuery.Proofs.Sql.Placeholders
/-!
Counts and aggregates are about the rows that are fetched.

A summary and a row statement each put their text together of the same rows. So the text of the one
is that of the other with its select list replaced or, where rows go through joins, stands around it
as around a table. Nothing is bound in front of the rows, which keep their numbers.
-/

namespace RowQuery

namespace Sql

/-! ### Texts of statements -/

theorem Piece.number_append_text (next : Nat) (ps : List Piece) (s : String) :
    number next (ps ++ [.text s]) = number next ps ++ s := by
  rw [number_append, number, number, String.append_empty]

/-- The text of rows alone: all columns of the base table, then what they are selected from. -/
theorem Rows.number_pieces (r : Rows) : Piece.number 1 r.pieces
    = "SELECT " ++ (if r.joins.isEmpty then "" else "DISTINCT ") ++ quoted r.aliasName ++ ".*"
      ++ Piece.number 1 r.sourcePieces := by
  rw [pieces, Piece.number]

/-- Rows in no order and not cut are the rows alone. -/
theorem RowStatement.prepared_unordered (r : Rows) :
    (RowStatement.mk r [] none 0).prepared = ⟨Piece.number 1 r.pieces, Piece.values r.pieces⟩ := by
  have hpieces : (RowStatement.mk r [] none 0).pieces = r.pieces ++ [.text ""] := by
    simp [RowStatement.pieces, orderByText]
  rw [prepared, Piece.render, hpieces, Piece.number_append_text, String.append_empty]
  exact congrArg (Prepared.mk _) (by rw [← Piece.values, Piece.values_append]; simp)

namespace Summary

/-- What the items of a summary are computed from, as text. -/
def sourceText (r : Rows) (sourceName : String) : String :=
  if r.joins.isEmpty then Piece.number 1 r.sourcePieces
  else " FROM (" ++ Piece.number 1 r.pieces ++ ") AS " ++ quoted sourceName

theorem number_sourcePieces (s : Summary) :
    Piece.number 1 s.sourcePieces = sourceText s.rows s.sourceName := by
  rw [sourcePieces, sourceText]
  split
  · rfl
  · rw [Piece.number, Piece.number_append_text]
    simp only [String.append_assoc]

theorem values_sourcePieces (s : Summary) :
    Piece.values s.sourcePieces = Piece.values s.rows.pieces := by
  rw [sourcePieces, Rows.pieces]
  split <;> simp

theorem prepared_eq (s : Summary) : s.prepared
    = ⟨"SELECT " ++ ", ".intercalate (s.items.map Item.text) ++ sourceText s.rows s.sourceName
        ++ s.groupText, Piece.values s.rows.pieces⟩ := by
  rw [prepared, Piece.render, pieces, Piece.number, Piece.number_append_text, number_sourcePieces,
    ← Piece.values, Piece.values_text, Piece.values_append, values_sourcePieces]
  simp [String.append_assoc]

theorem groupText_ungrouped (r : Rows) (sourceName : String) (items : List Item) :
    (Summary.mk r sourceName items []).groupText = "" := rfl

end Summary

/-- The select list of a count. -/
theorem select_countAll : "SELECT " ++ ", ".intercalate (List.map Item.text [.countAll])
    = "SELECT COUNT(*)" := rfl

end Sql

/-! ### Texts of aggregates -/

namespace Aggregate.Spec

/-- The select list: each grouping field and each function of a field, under its own name. -/
def selectList (s : Spec) (aliasName : String) : String :=
  let column (field : String) := Sql.quoted aliasName ++ "." ++ Sql.quoted field
  ", ".intercalate
    ((s.groupBy.map fun field => column field ++ " AS " ++ Sql.quoted ("GROUP_BY_" ++ field))
      ++ Function.all.flatMap fun f => (s.fields f).map fun field =>
        f.sqlName ++ "(" ++ column field ++ ") AS " ++ Sql.quoted (f.sqlName ++ "_" ++ field))

/-- The grouping and the order of the groups, nothing without grouping fields. -/
def grouping (s : Spec) (aliasName : String) : String :=
  let column (field : String) := Sql.quoted aliasName ++ "." ++ Sql.quoted field
  if s.groupBy.isEmpty then ""
  else " GROUP BY " ++ ", ".intercalate (s.groupBy.map column)
    ++ " ORDER BY " ++ ", ".intercalate (s.groupBy.map fun field => column field ++ " ASC")

theorem intercalate_items (s : Spec) (aliasName : String) :
    ", ".intercalate ((s.items aliasName).map Sql.Item.text) = s.selectList aliasName := by
  rw [selectList, items, List.map_append, List.map_map, List.map_flatMap]
  simp only [List.map_map]
  rfl

theorem groupText_eq (s : Spec) (rows : Sql.Rows) (aliasName sourceName : String)
    (items : List Sql.Item) :
    (Sql.Summary.mk rows sourceName items (s.groupColumns aliasName)).groupText
      = s.grouping aliasName := by
  rw [Sql.Summary.groupText, grouping, groupColumns, List.isEmpty_map, List.map_map, List.map_map]
  rfl

end Aggregate.Spec

namespace Compiler

variable {c : Compiler} {e : Entity} {name : String} {f : Filter} {rows : Sql.Rows}

/-! ### Requests over the rows of an entity -/

/-- The rows that an entity of a name has under a filter. -/
def rowsOf (c : Compiler) (name : String) (f : Filter) : Except QueryError (Entity × Sql.Rows) := do
  let e ← c.entity name
  let rows ← c.rows e f
  return (e, rows)

theorem map_rowsOf {α : Type} (c : Compiler) (name : String) (f : Filter)
    (g : Entity → Sql.Rows → α) :
    (c.rowsOf name f).map (fun p => g p.1 p.2)
      = c.entity name >>= fun e => c.rows e f >>= fun rows => pure (g e rows) := by
  simp only [rowsOf]
  cases c.entity name with
  | error fault => rfl
  | ok e => simp only [ok_bind]; cases c.rows e f <;> rfl

theorem many_eq_map (c : Compiler) (name : String) (f : Filter) :
    c.many name f [] none 0
      = (c.rowsOf name f).map fun p => ⟨p.1.name, f, ⟨p.2, [], none, 0⟩⟩ :=
  (c.map_rowsOf name f fun e rows => Fetch.mk e.name f ⟨rows, [], none, 0⟩).symm

theorem count_eq_map (c : Compiler) (name : String) (f : Filter) :
    c.count name f
      = (c.rowsOf name f).map fun p => ⟨p.1.name, f, p.2, countedName, [.countAll], []⟩ :=
  (c.map_rowsOf name f fun e rows =>
    Count.mk e.name f ⟨rows, countedName, [.countAll], []⟩).symm

theorem aggregate_eq_map (c : Compiler) (name : String) (f : Filter) {spec : Aggregate.Spec}
    (hspec : spec.hasFunctions = true) :
    c.aggregate name f spec
      = (c.rowsOf name f).map fun p => ⟨p.1.name, f, spec, p.2, p.1.tableAlias,
          spec.items p.1.tableAlias, spec.groupColumns p.1.tableAlias⟩ := by
  rw [c.map_rowsOf name f fun e rows => Aggregation.mk e.name f spec ⟨rows, e.tableAlias,
    spec.items e.tableAlias, spec.groupColumns e.tableAlias⟩]
  simp only [aggregate, hspec, if_true]

theorem rowsOf_eq_ok : c.rowsOf name f = .ok (e, rows) ↔
    c.catalog.find? name = some e ∧ c.rows e f = .ok rows := by
  simp only [rowsOf, bind_eq_ok, pure_eq_ok, entity_eq_ok]
  constructor
  · rintro ⟨e', he, rows', hrows, heq⟩
    cases heq
    exact ⟨he, hrows⟩
  · rintro ⟨he, hrows⟩
    exact ⟨e, he, rows, hrows, rfl⟩

/-- The count and every aggregate range over the rows that are fetched without paging: they are
refused as the rows are, and otherwise have the text of the row statement as a query of its own
where rows go through joins, and with its select list replaced where they do not. In each case just
the values of the row statement are bound. -/
theorem summaries_range_over_rows (c : Compiler) (name : String) (f : Filter) :
    (∀ fault, c.count name f = .error fault ↔ c.many name f [] none 0 = .error fault) ∧
      (∀ spec : Aggregate.Spec, spec.hasFunctions = true → ∀ fault,
        c.aggregate name f spec = .error fault ↔ c.many name f [] none 0 = .error fault) ∧
      ∀ fetch, c.many name f [] none 0 = .ok fetch →
        ∃ e source, c.catalog.find? name = some e ∧
          let rows := fetch.statement.prepared
          let joined := !((f.scope c.catalog e).joins e.tableAlias).isEmpty
          let rowsAs (sourceName : String) := if joined
            then " FROM (" ++ rows.sql ++ ") AS " ++ Sql.quoted sourceName else source
          rows.sql = "SELECT " ++ (if joined then "DISTINCT " else "")
              ++ Sql.quoted e.tableAlias ++ ".*" ++ source ∧
            (c.count name f).map (fun q => q.statement.prepared)
              = .ok ⟨"SELECT COUNT(*)" ++ rowsAs "matched", rows.params⟩ ∧
            ∀ spec : Aggregate.Spec, spec.hasFunctions = true →
              (c.aggregate name f spec).map (fun q => q.statement.prepared)
                = .ok ⟨"SELECT " ++ spec.selectList e.tableAlias ++ rowsAs e.tableAlias
                    ++ spec.grouping e.tableAlias, rows.params⟩ := by
  refine ⟨fun fault => ?_, fun spec hspec fault => ?_, fun fetch hfetch => ?_⟩
  · rw [count_eq_map, many_eq_map, map_eq_error, map_eq_error]
  · rw [aggregate_eq_map c name f hspec, many_eq_map, map_eq_error, map_eq_error]
  · rw [many_eq_map, map_eq_ok] at hfetch
    obtain ⟨⟨e, rows⟩, hrows, rfl⟩ := hfetch
    obtain ⟨he, hparts⟩ := rowsOf_eq_ok.1 hrows
    obtain ⟨condition, -, hparts⟩ := rows_eq_ok.1 hparts
    have halias : rows.aliasName = e.tableAlias := hparts ▸ rfl
    have hjoins : (f.scope c.catalog e).joins e.tableAlias = rows.joins := hparts ▸ rfl
    refine ⟨e, Sql.Piece.number 1 rows.sourcePieces, he, ?_, ?_, fun spec hspec => ?_⟩
    · rw [Sql.RowStatement.prepared_unordered, Sql.Rows.number_pieces, hjoins, halias]
      cases rows.joins.isEmpty <;> rfl
    · rw [count_eq_map, hrows, hjoins, Sql.RowStatement.prepared_unordered]
      simp only [Except.map, Sql.Summary.prepared_eq, Sql.Summary.sourceText, Sql.select_countAll,
        Sql.Summary.groupText_ungrouped, String.append_empty]
      cases rows.joins.isEmpty <;> rfl
    · rw [aggregate_eq_map c name f hspec, hrows, hjoins, Sql.RowStatement.prepared_unordered]
      simp only [Except.map, Sql.Summary.prepared_eq, Sql.Summary.sourceText,
        Aggregate.Spec.intercalate_items, Aggregate.Spec.groupText_eq]
      cases rows.joins.isEmpty <;> rfl

/-- Tasks with a sub-task that is due on a day, counted, and the last of them for each title. -/
theorem summaries_range_over_rows_tasks :
    let sub : Entity := ⟨"sub_task", "sub_tasks", some "st", [], [⟨"due", .date⟩], []⟩
    let relation : Relation := ⟨"subTasks", "sub_task", none, .left, "id", "task_id"⟩
    let task : Entity :=
      ⟨"task", "tasks", none, ["id"], [⟨"id", .integer⟩, ⟨"title", .text⟩], [relation]⟩
    let c : Compiler := ⟨⟨[task, sub]⟩, .empty, .standard⟩
    let f := Filter.onRelation "subTasks" (.onField "due" .eq (.str "2024-01-01"))
    let spec : Aggregate.Spec := ⟨[], [], [], ["id"], [], ["title"]⟩
    ∃ fetch, c.many "task" f [] none 0 = .ok fetch ∧ spec.hasFunctions = true ∧
      let rows := fetch.statement.prepared
      let items := "\"task\".\"title\" AS \"GROUP_BY_title\", MAX(\"task\".\"id\") AS \"MAX_id\""
      let rowsAs (sourceName : String) := " FROM (" ++ rows.sql ++ ") AS " ++ Sql.quoted sourceName
      rows.sql = "SELECT DISTINCT \"task\".* FROM \"tasks\" AS \"task\" LEFT JOIN \"sub_tasks\" "
          ++ "AS \"subTasks\" ON \"task\".\"id\" = \"subTasks\".\"task_id\" "
          ++ "WHERE (\"subTasks\".\"due\" = CAST($1 AS date))" ∧
        rows.params = [.text "2024-01-01"] ∧
        (c.count "task" f).map (fun q => q.statement.prepared)
          = .ok ⟨"SELECT COUNT(*)" ++ rowsAs "matched", rows.params⟩ ∧
        (c.aggregate "task" f spec).map (fun q => q.statement.prepared)
          = .ok ⟨"SELECT " ++ items ++ rowsAs "task"
              ++ " GROUP BY \"task\".\"title\" ORDER BY \"task\".\"title\" ASC",
            rows.params⟩ := by
  intro sub relation task c f spec
  have hscope : f.scope c.catalog task = .node task [] [] [("subTasks", .related relation sub
      (.node sub [] [] [("due", .column [("eq", .str "2024-01-01")])]))] := by
    rw [Scope.scope_onRelation (show task.relation? "subTasks" = some relation from rfl)
      (show c.catalog.find? "sub_task" = some sub from rfl), Scope.scope_onField rfl]
    rfl
  obtain ⟨rows, hrows, hsql, hparams⟩ : ∃ rows, c.rows task f = .ok rows ∧
      Sql.Piece.number 1 rows.pieces
        = "SELECT DISTINCT \"task\".* FROM \"tasks\" AS \"task\" LEFT JOIN \"sub_tasks\" "
          ++ "AS \"subTasks\" ON \"task\".\"id\" = \"subTasks\".\"task_id\" "
          ++ "WHERE (\"subTasks\".\"due\" = CAST($1 AS date))"
        ∧ Sql.Piece.values rows.pieces = [.text "2024-01-01"] := by
    rw [Compiler.rows, hscope]
    exact ⟨_, rfl, by decide +kernel, by decide +kernel⟩
  have hmany : c.many "task" f [] none 0 = .ok ⟨"task", f, rows, [], none, 0⟩ := by
    rw [many, show c.entity "task" = .ok task from rfl, ok_bind]
    simp only [select, hrows]
    rfl
  have hspec : spec.hasFunctions = true := rfl
  have hjoined : ((f.scope c.catalog task).joins task.tableAlias).isEmpty = false := by
    rw [hscope]
    rfl
  have hselect : spec.selectList task.tableAlias
      = "\"task\".\"title\" AS \"GROUP_BY_title\", MAX(\"task\".\"id\") AS \"MAX_id\"" := by
    decide +kernel
  have hgrouping : spec.grouping task.tableAlias
      = " GROUP BY \"task\".\"title\" ORDER BY \"task\".\"title\" ASC" := by
    decide +kernel
  obtain ⟨e, source, he, -, hcount, haggregate⟩ :=
    (summaries_range_over_rows c "task" f).2.2 _ hmany
  obtain rfl : task = e := Option.some.inj he
  have hmax := haggregate spec hspec
  simp only [hjoined, Bool.not_false, if_true] at hcount
  simp only [hjoined, Bool.not_false, if_true, hselect, hgrouping] at hmax
  exact ⟨_, hmany, hspec, by rw [Sql.RowStatement.prepared_unordered, hsql],
    by rw [Sql.RowStatement.prepared_unordered, hparams], hcount, hmax⟩

end Compiler
end RowQuery
