import RowQuery.Proofs.Compiler
import RowQuery.Proofs.Filter.Combination
import RowQuery.Proofs.Filter.Judgement
import RowQuery.Store
/-!
Accepted requests on rows in memory.

The compiler checks every operator of a filter with its value, on rows that it never sees. What it
accepts is judged on every row, so a store finds the rows of an accepted request whatever rows it
holds, and counts them. Rows that are fetched or grouped have to be put in order too. That is no
matter of errors either: a sort that contradicts itself may have the request given up, and nothing
else can stop it.
-/

namespace RowQuery

namespace Store

theorem select_eq {s : Store} {entity : String} {f : Scoped} {p : Json.Row → Bool} :
    ∀ {rows : List Json.Row}, (∀ row ∈ rows, f.holds s.registry row = .ok (p row)) →
      s.select entity f rows = .ok (rows.filter p)
  | [], _ => rfl
  | row :: rest, h => by
    rw [Store.select, h row (List.mem_cons_self ..),
      select_eq fun row hrow => h row (List.mem_cons_of_mem _ hrow), List.filter_cons]
    rfl

/-- Without a filter all rows are found. -/
theorem matching_empty {s : Store} {name : String} {e : Entity}
    (h : s.catalog.find? name = some e) : s.matching name .empty = .ok (s.table name) := by
  simp only [matching, h]
  rw [select_eq fun row _ => Scope.holds_empty s.catalog e s.registry row,
    List.filter_eq_self.2 fun _ _ => rfl]

/-- There is no error of execution: either an answer, or a sort that contradicts itself had the
request given up. -/
def IsAnswered {α : Type} (x : Except NoAnswer α) : Prop := ∀ cause, x ≠ .error (.error cause)

theorem isAnswered_ordered {α : Type} (x : Option α) : IsAnswered (ordered x) := by
  intro cause hcause
  cases x <;> cases hcause

theorem IsAnswered.bind {α β : Type} {x : Except NoAnswer α} {f : α → β} (h : IsAnswered x) :
    IsAnswered (x >>= fun a => pure (f a)) := by
  intro cause hcause
  cases x with
  | error e =>
    obtain rfl := Except.error.inj hcause
    exact h cause rfl
  | ok a => cases hcause

end Store

namespace Compiler

variable {c : Compiler}

/-- A filter with integers of 64 bits only, and without a pattern that is too large to be
matched. -/
structure Fits (c : Compiler) (e : Entity) (aliasName : String) (f : Filter) : Prop where
  inRange : (f.scope c.catalog e).InRange aliasName
  patternsFit : (f.scope c.catalog e).PatternsFit c.registry aliasName

/-- A store of rows that resolves filters as the compiler does. -/
def storeOf (c : Compiler) (tables : Dict (List Json.Row)) : Store :=
  ⟨c.catalog, c.registry, tables⟩

theorem rows_empty (c : Compiler) (e : Entity) :
    c.rows e .empty = .ok ⟨e.table, e.tableAlias, [], none⟩ := by
  rw [rows, Scope.scope_empty]
  rfl

/-- The rows of a filter that compiles are found in every table. -/
theorem exists_matching_eq_filter (hr : c.registry.HoldsBuiltIn) {name : String} {e : Entity}
    {f : Filter} {rows : Sql.Rows} (he : c.catalog.find? name = some e)
    (hrows : c.rows e f = .ok rows) (hf : c.Fits e e.tableAlias f) :
    ∃ p : Json.Row → Bool, ∀ tables, (c.storeOf tables).matching e.name f
      = .ok (((c.storeOf tables).table e.name).filter p) := by
  obtain ⟨condition, hcondition, -⟩ := rows_eq_ok.1 hrows
  choose p hp using fun row : Json.Row =>
    Scoped.holds_of_condition hr hf.inRange hf.patternsFit hcondition row
  refine ⟨p, fun tables => ?_⟩
  simp only [Store.matching, storeOf, find?_name he]
  exact Store.select_eq fun row _ => hp row

theorem exists_matching (hr : c.registry.HoldsBuiltIn) {name : String} {e : Entity} {f : Filter}
    {rows : Sql.Rows} (he : c.catalog.find? name = some e) (hrows : c.rows e f = .ok rows)
    (hf : c.Fits e e.tableAlias f) (tables : Dict (List Json.Row)) :
    ∃ found, (c.storeOf tables).matching e.name f = .ok found := by
  obtain ⟨p, hp⟩ := exists_matching_eq_filter hr he hrows hf
  exact ⟨_, hp tables⟩

theorem isAnswered_fetch {s : Store} {q : Fetch} {found : List Json.Row}
    (h : s.matching q.entity q.filter = .ok found) : Store.IsAnswered (s.fetch q) := by
  rw [Store.fetch, h]
  exact (Store.isAnswered_ordered _).bind

/-- A filter that compiles is judged on every row, and requests that compile run without an error of
execution on every table. Counts are always given; rows and aggregates are given, too, unless their
sort contradicts itself and has the request given up. -/
theorem accepted_answers (hr : c.registry.HoldsBuiltIn) :
    (∀ e aliasName f condition, c.Fits e aliasName f →
      (f.scope c.catalog e).condition c.registry aliasName = .ok condition →
      ∀ row, ∃ b, (f.scope c.catalog e).holds c.registry row = .ok b) ∧
    ∀ tables name f,
      (∀ sort arguments q, c.page name f sort arguments = .ok q →
        (∀ e ∈ c.catalog.find? name, c.Fits e e.tableAlias q.fetch.filter) →
        Store.IsAnswered ((c.storeOf tables).fetch q.fetch)) ∧
      ((∀ e ∈ c.catalog.find? name, c.Fits e e.tableAlias f) →
        (∀ sort limit offset q, c.many name f sort limit offset = .ok q →
          Store.IsAnswered ((c.storeOf tables).fetch q)) ∧
        (∀ q, c.count name f = .ok q → ∃ n, (c.storeOf tables).count q = .ok n) ∧
        ∀ spec q, c.aggregate name f spec = .ok q →
          Store.IsAnswered ((c.storeOf tables).aggregate q)) := by
  constructor
  · intro e aliasName f condition hf hcondition row
    exact Scoped.holds_of_condition hr hf.inRange hf.patternsFit hcondition row
  intro tables name f
  constructor
  · intro sort arguments q hq hf
    obtain ⟨e, rows, order, he, hrows, hfetch⟩ := rows_of_page hq
    obtain ⟨found, hfound⟩ := exists_matching hr he hrows (hf e he) tables
    rw [hfetch]
    exact isAnswered_fetch hfound
  intro hf
  refine ⟨fun sort limit offset q hq => ?_, fun q hq => ?_, fun spec q hq => ?_⟩
  · obtain ⟨e, rows, he, hrows, rfl⟩ := rows_of_many hq
    obtain ⟨found, hfound⟩ := exists_matching hr he hrows (hf e he) tables
    exact isAnswered_fetch hfound
  · obtain ⟨e, rows, he, hrows, rfl⟩ := rows_of_count hq
    obtain ⟨found, hfound⟩ := exists_matching hr he hrows (hf e he) tables
    exact ⟨found.length, by rw [Store.count, hfound]; rfl⟩
  · obtain ⟨e, rows, he, hrows, rfl⟩ := rows_of_aggregate hq
    obtain ⟨found, hfound⟩ := exists_matching hr he hrows (hf e he) tables
    rw [Store.aggregate, hfound]
    exact Store.isAnswered_ordered _

/-- Multiples of five with a sub-task that is done, among rows of any shape. -/
theorem accepted_answers_multiples_done :
    let sub : Entity := ⟨"sub_task", "sub_tasks", none, ["id"], [⟨"done", .boolean⟩], []⟩
    let relation : Relation := ⟨"subTasks", "sub_task", some "st", .left, "id", "task_id"⟩
    let task : Entity := ⟨"task", "tasks", none, ["id"], [⟨"id", .integer⟩], [relation]⟩
    let registry :=
      Registry.empty.store (.byType .integer "isMultipleOf") ⟨MultipleOf.handler, .null⟩
    let c : Compiler := ⟨⟨[task, sub]⟩, registry, .standard⟩
    let f := Filter.allOf [.onField "id" (.custom "isMultipleOf") (.int 5),
      .onRelation "subTasks" (.onField "done" .is (.bool true))]
    (∀ row, ∃ b, (f.scope c.catalog task).holds registry row = .ok b) ∧
      ∃ q, c.count "task" f = .ok q ∧ ∀ tables, ∃ n, (c.storeOf tables).count q = .ok n := by
  intro sub relation task registry c f
  have hr : registry.HoldsBuiltIn := Registry.empty_holdsBuiltIn.store (.inl rfl) _
  have hscope : f.scope c.catalog task = .node task
      [.node task [] [] [("id", .column [("isMultipleOf", .int 5)])],
        .node task [] [] [("subTasks", .related relation sub
          (.node sub [] [] [("done", .column [("is", .bool true)])]))]] [] [] := by
    simp only [f, Scope.scope_allOf, List.map_cons, List.map_nil,
      Scope.scope_onField (show task.relation? "id" = none from rfl),
      Scope.scope_onField (show sub.relation? "done" = none from rfl),
      Scope.scope_onRelation (show task.relation? "subTasks" = some relation from rfl)
        (show c.catalog.find? "sub_task" = some sub from rfl), Filter.Operator.name]
  have hsites : (f.scope c.catalog task).sites "task"
      = [⟨task, "task", "id", "isMultipleOf", .int 5⟩, ⟨sub, "st", "done", "is", .bool true⟩] := by
    rw [hscope]
    rfl
  have hfits : c.Fits task "task" f := by
    constructor
    · rw [Scoped.InRange, hsites]
      simp only [List.forall_mem_cons, Filter.Value.InRange, List.not_mem_nil, false_imp_iff,
        implies_true, and_true]
      decide
    · rw [Scoped.PatternsFit, hsites]
      decide
  have hcondition : ∃ condition, (f.scope c.catalog task).condition registry "task"
      = .ok condition := by
    rw [hscope]
    exact ⟨_, rfl⟩
  obtain ⟨condition, hcondition⟩ := hcondition
  have hrows : ∃ rows, c.rows task f = .ok rows := ⟨_, rows_eq_ok.2 ⟨condition, hcondition, rfl⟩⟩
  have hcount : ∃ q, c.count "task" f = .ok q := by
    obtain ⟨rows, hrows⟩ := hrows
    rw [count, show c.entity "task" = .ok task from rfl, ok_bind, hrows]
    exact ⟨_, rfl⟩
  obtain ⟨q, hq⟩ := hcount
  obtain ⟨hjudged, hanswered⟩ := accepted_answers (c := c) hr
  refine ⟨hjudged task "task" f condition hfits hcondition, q, hq, fun tables => ?_⟩
  refine ((hanswered tables "task" f).2 fun e he => ?_).2.1 q hq
  obtain rfl : task = e := Option.some.inj he
  exact hfits

end Compiler
end RowQuery
