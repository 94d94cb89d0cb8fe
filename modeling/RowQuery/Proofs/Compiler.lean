import RowQuery.Compiler
import RowQuery.Proofs.Catalog
import RowQuery.Proofs.Paging.Arguments
/-!
What a compiled request is made of.

Every request names an entity, and its statement is about the rows of that entity under one filter.
A page may add the rows beyond its cursor to the filter, so there the filter is the one that is
kept beside the statement.
-/

namespace RowQuery.Compiler

variable {c : Compiler} {e : Entity} {f : Filter} {name : String}

theorem entity_eq_ok : c.entity name = .ok e ↔ c.catalog.find? name = some e := by
  rw [entity]
  cases c.catalog.find? name <;> simp

/-- An entity is found by its own name too. -/
theorem find?_name (h : c.catalog.find? name = some e) : c.catalog.find? e.name = some e :=
  (Catalog.mem_of_find? h).2.symm ▸ h

theorem rows_eq_ok {r : Sql.Rows} : c.rows e f = .ok r ↔
    ∃ condition, (f.scope c.catalog e).condition c.registry e.tableAlias = .ok condition ∧
      ⟨e.table, e.tableAlias, (f.scope c.catalog e).joins e.tableAlias, condition⟩ = r := by
  simp only [rows, bind_eq_ok, pure_eq_ok]

theorem rows_of_select {sort : SortOrder} {limit : Option Nat} {offset : Nat} {q : Fetch}
    (h : c.select e f sort limit offset = .ok q) :
    ∃ rows, c.rows e f = .ok rows ∧ q = ⟨e.name, f, rows, sort, limit, offset⟩ := by
  obtain ⟨rows, hrows, h⟩ := bind_eq_ok.1 h
  exact ⟨rows, hrows, (pure_eq_ok.1 h).symm⟩

theorem rows_of_many {sort : SortOrder} {limit : Option Nat} {offset : Nat} {q : Fetch}
    (h : c.many name f sort limit offset = .ok q) :
    ∃ e rows, c.catalog.find? name = some e ∧ c.rows e f = .ok rows ∧
      q = ⟨e.name, f, rows, sort, limit, offset⟩ := by
  obtain ⟨e, he, h⟩ := bind_eq_ok.1 h
  refine ⟨e, ?_⟩
  rw [← entity_eq_ok]
  cases limit with
  | none =>
    obtain ⟨rows, hrows, rfl⟩ := rows_of_select h
    exact ⟨rows, he, hrows, rfl⟩
  | some n =>
    obtain ⟨m, hm, hselect⟩ := bind_eq_ok.1 h
    obtain ⟨rows, hrows, rfl⟩ := rows_of_select hselect
    -- a limit that the policy lets pass is not changed
    obtain ⟨-, rfl⟩ := PagingPolicy.check_eq_ok.1 hm
    exact ⟨rows, he, hrows, rfl⟩

/-- A compiled page: the plan of the page that the arguments ask for, and the rows that the plan
fetches. -/
theorem parts_of_page {sort : SortOrder} {arguments : PagingArguments} {q : PagedFetch}
    (h : c.page name f sort arguments = .ok q) :
    ∃ e page rows order, c.catalog.find? name = some e ∧
      Page.ofArguments arguments c.policy = .ok page ∧
      plan e f sort page = .ok (q.plan, q.fetch.filter, order) ∧
      c.rows e q.fetch.filter = .ok rows ∧
      q.fetch = ⟨e.name, q.fetch.filter, rows, order, some q.plan.fetchLimit,
        q.plan.fetchOffset⟩ := by
  obtain ⟨e, he, h⟩ := bind_eq_ok.1 h
  obtain ⟨page, hpage, h⟩ := bind_eq_ok.1 h
  obtain ⟨⟨plan, g, order⟩, hplan, h⟩ := bind_eq_ok.1 h
  obtain ⟨fetch, hfetch, h⟩ := bind_eq_ok.1 h
  obtain rfl := pure_eq_ok.1 h
  obtain ⟨rows, hrows, rfl⟩ := rows_of_select hfetch
  exact ⟨e, page, rows, order, entity_eq_ok.1 he, hpage, hplan, hrows, rfl⟩

theorem rows_of_page {sort : SortOrder} {arguments : PagingArguments} {q : PagedFetch}
    (h : c.page name f sort arguments = .ok q) :
    ∃ e rows sort, c.catalog.find? name = some e ∧ c.rows e q.fetch.filter = .ok rows ∧
      q.fetch = ⟨e.name, q.fetch.filter, rows, sort, some q.plan.fetchLimit,
        q.plan.fetchOffset⟩ := by
  obtain ⟨e, page, rows, order, he, -, -, hrows, hfetch⟩ := parts_of_page h
  exact ⟨e, rows, order, he, hrows, hfetch⟩

theorem rows_of_count {q : Count} (h : c.count name f = .ok q) :
    ∃ e rows, c.catalog.find? name = some e ∧ c.rows e f = .ok rows ∧
      q = ⟨e.name, f, rows, countedName, [.countAll], []⟩ := by
  obtain ⟨e, he, h⟩ := bind_eq_ok.1 h
  obtain ⟨rows, hrows, h⟩ := bind_eq_ok.1 h
  exact ⟨e, rows, entity_eq_ok.1 he, hrows, (pure_eq_ok.1 h).symm⟩

theorem rows_of_aggregate {spec : Aggregate.Spec} {q : Aggregation}
    (h : c.aggregate name f spec = .ok q) :
    ∃ e rows, c.catalog.find? name = some e ∧ c.rows e f = .ok rows ∧
      q = ⟨e.name, f, spec, rows, e.tableAlias, spec.items e.tableAlias,
        spec.groupColumns e.tableAlias⟩ := by
  obtain ⟨e, he, h⟩ := bind_eq_ok.1 h
  refine ⟨e, ?_⟩
  rw [← entity_eq_ok]
  split at h
  · obtain ⟨rows, hrows, h⟩ := bind_eq_ok.1 h
    exact ⟨rows, he, hrows, (pure_eq_ok.1 h).symm⟩
  · cases h

end RowQuery.Compiler
