import Mathlib.Data.List.Nodup
import RowQuery.Proofs.Aggregate.Columns
import RowQuery.Service
/-!
Responses and result rows, two forms of one thing.

A response has a result row, with a column for every value that it holds. Such a row is read back as
the response, and whatever is read is the row of what it is read as. So a row is refused just when
it cannot be the row of a response, which is when a column has no proper name.
-/

namespace RowQuery

/-- The name that an item has in the result, if the statement gives it one. -/
def Sql.Item.name? : Sql.Item → Option String
  | countAll => none
  | column _ name | call _ _ name => some name

namespace Aggregate

/-! ### Names that are proper -/

namespace Part

variable {p : Part} {field column : String}

theorem field?_eq_some_iff :
    p.field? column = some field ↔ IsReadable field ∧ column = p.column field := by
  constructor
  · intro h
    simp only [field?_eq] at h
    split at h
    · rename_i hcond
      simp only [Bool.and_eq_true, Bool.not_eq_true', List.isEmpty_eq_false_iff] at hcond
      obtain ⟨⟨hlabel, hne⟩, hline⟩ := hcond
      obtain ⟨rest, hrest⟩ := List.isPrefixOf_iff_prefix.1 hlabel
      rw [← hrest, List.drop_left] at h hne hline
      obtain rfl := Option.some.inj h
      refine ⟨⟨?_, ?_⟩, ?_⟩
      · intro hempty
        exact hne (by simpa using congrArg String.toList hempty)
      · simpa using hline
      · apply String.toList_injective
        rw [toList_column, String.toList_ofList, hrest]
    · cases h
  · rintro ⟨hfield, rfl⟩
    exact field?_column p hfield

theorem ofColumn?_eq_some_iff :
    ofColumn? column = some (p, field) ↔ IsReadable field ∧ column = p.column field := by
  constructor
  · intro h
    obtain ⟨q, -, hq⟩ := List.exists_of_findSome?_eq_some h
    obtain ⟨other, hother, heq⟩ := Option.map_eq_some_iff.1 hq
    obtain ⟨rfl, rfl⟩ := Prod.mk.inj heq
    exact field?_eq_some_iff.1 hother
  · rintro ⟨hfield, rfl⟩
    exact ofColumn?_column p hfield

theorem ofColumn?_eq_none_iff : ofColumn? column = none ↔ ¬ IsColumn column := by
  rw [← not_iff_not, not_not, ← ne_eq, Option.ne_none_iff_exists']
  constructor
  · rintro ⟨⟨p, field⟩, h⟩
    exact ⟨p, field, ofColumn?_eq_some_iff.1 h⟩
  · rintro ⟨p, field, h⟩
    exact ⟨(p, field), ofColumn?_eq_some_iff.2 h⟩

end Part

/-! ### The row of a response -/

namespace Response

variable {r r' : Response} {row : Json.Row} {p : Part} {field column : String}

/-- A response whose maps are in order and whose fields can be read back. -/
structure IsProper (r : Response) : Prop where
  sorted : ∀ p, Dict.Sorted (r.part p)
  readable : ∀ p, ∀ e ∈ r.part p, IsReadable e.1

/-- The values of a response with the columns that they stand in. -/
def columns (r : Response) : List (String × Json.Value) :=
  Part.all.flatMap fun p => (r.part p).map fun e => (p.column e.1, e.2)

theorem mem_columns {e : String × Json.Value} :
    e ∈ r.columns ↔ ∃ p field, (field, e.2) ∈ r.part p ∧ e.1 = p.column field := by
  obtain ⟨column, v⟩ := e
  simp only [columns, List.mem_flatMap, List.mem_map, Prod.mk.injEq]
  constructor
  · rintro ⟨p, -, ⟨field, w⟩, hmem, rfl, rfl⟩
    exact ⟨p, field, hmem, rfl⟩
  · rintro ⟨p, field, hmem, rfl⟩
    exact ⟨p, p.mem_all, (field, v), hmem, rfl, rfl⟩

/-- No two values stand in one column. -/
theorem nodup_columns (h : ∀ p, Dict.Sorted (r.part p)) : (r.columns.map (·.1)).Nodup := by
  rw [columns, List.map_flatMap, List.nodup_flatMap]
  constructor
  · intro p _
    rw [List.map_map]
    refine List.Pairwise.map _ ?_ (h p)
    intro a b hlt hcolumn
    rw [(Part.column_injective hcolumn).2] at hlt
    exact String.lt_irrefl _ hlt
  · refine List.Pairwise.imp_of_mem ?_ (show Part.all.Pairwise (· ≠ ·) by decide)
    intro p q _ _ hne column hp hq
    obtain ⟨e, he, rfl⟩ := List.mem_map.1 hp
    obtain ⟨e', he', hcolumn⟩ := List.mem_map.1 hq
    obtain ⟨a, -, rfl⟩ := List.mem_map.1 he
    obtain ⟨b, -, rfl⟩ := List.mem_map.1 he'
    exact hne (Part.column_injective hcolumn).1.symm

theorem find?_toRow (h : Dict.Sorted (r.part p)) (field : String) :
    Dict.find? r.toRow (p.column field) = Dict.find? (r.part p) field := by
  cases hfind : Dict.find? (r.part p) field with
  | none =>
    refine Dict.find?_ofList_eq_none fun e he hcolumn => ?_
    obtain ⟨q, other, hmem, hname⟩ := mem_columns.1 he
    obtain ⟨rfl, rfl⟩ := Part.column_injective (hcolumn.symm.trans hname)
    exact Dict.find?_eq_none_iff.1 hfind _ hmem rfl
  | some v =>
    refine Dict.find?_ofList (mem_columns.2 ⟨p, field, Dict.mem_of_find? hfind, rfl⟩) ?_
    intro e he hcolumn
    obtain ⟨q, other, hmem, hname⟩ := mem_columns.1 he
    obtain ⟨rfl, rfl⟩ := Part.column_injective (hcolumn.symm.trans hname)
    exact Option.some.inj ((h.find?_eq_some_iff.2 hmem).symm.trans hfind)

theorem find?_toRow_eq_none (h : ∀ (p : Part) (field : String), column ≠ p.column field) :
    Dict.find? r.toRow column = none := by
  refine Dict.find?_ofList_eq_none fun e he hcolumn => ?_
  obtain ⟨p, field, -, hname⟩ := mem_columns.1 he
  exact h p field (hcolumn.symm.trans hname)

/-! ### The request of a response -/

/-- The request that asks for just the values of a response. -/
def spec (r : Response) : Spec where
  count := Dict.keys (r.part (.call .count))
  sum := Dict.keys (r.part (.call .sum))
  avg := Dict.keys (r.part (.call .avg))
  max := Dict.keys (r.part (.call .max))
  min := Dict.keys (r.part (.call .min))
  groupBy := Dict.keys (r.part .groupBy)

theorem part_spec (r : Response) (p : Part) : r.spec.part p = Dict.keys (r.part p) := by
  rcases p with _ | f
  · rfl
  · cases f <;> rfl

/-- The statement of the request gives its items the names of the columns of the response. -/
theorem perm_names_items (r : Response) (aliasName : String) :
    ((r.spec.items aliasName).filterMap Sql.Item.name?).Perm (r.columns.map (·.1)) := by
  have hparts : (Part.groupBy :: Function.all.map Part.call).Perm Part.all := by decide
  have hitems : (r.spec.items aliasName).filterMap Sql.Item.name?
      = (Part.groupBy :: Function.all.map Part.call).flatMap
        fun p => (r.spec.part p).map p.column := by
    simp [Spec.items, Spec.part, List.filterMap_flatMap, List.filterMap_map, List.flatMap_map,
      Function.comp_def, Sql.Item.name?]
  have hcolumns : r.columns.map (·.1) = Part.all.flatMap fun p => (r.spec.part p).map p.column := by
    simp [columns, part_spec, Dict.keys, List.map_flatMap, Function.comp_def]
  rw [hitems, hcolumns]
  exact hparts.flatMap_right _

/-! ### Rows that are read -/

theorem isProper_empty : empty.IsProper :=
  ⟨fun _ => List.Pairwise.nil, fun _ => List.forall_mem_nil _⟩

theorem IsProper.insert (h : r.IsProper) (q : Part) (hfield : IsReadable field) (v : Json.Value) :
    (r.insert q field v).IsProper := by
  refine ⟨fun p => ?_, fun p => ?_⟩
  · by_cases hp : p = q
    · subst hp
      simpa only [Response.insert, if_true] using (h.sorted p).insert field v
    · simpa only [Response.insert, if_neg hp] using h.sorted p
  · by_cases hp : p = q
    · subst hp
      simpa only [Response.insert, if_true] using Dict.forall_insert hfield (h.readable p)
    · simpa only [Response.insert, if_neg hp] using h.readable p

theorem isProper_addColumns : ∀ {row : Json.Row} {r r' : Response}, r.addColumns row = .ok r' →
    r.IsProper → r'.IsProper
  | [], r, r', h, hr => by
    obtain rfl := Except.ok.inj h
    exact hr
  | (column, v) :: rest, r, r', h, hr => by
    rw [addColumns] at h
    split at h
    · cases h
    · rename_i hcolumn
      exact isProper_addColumns h (hr.insert _ (Part.ofColumn?_eq_some_iff.1 hcolumn).1 v)

theorem isColumn_of_addColumns : ∀ {row : Json.Row} {r r' : Response},
    r.addColumns row = .ok r' → ∀ e ∈ row, Part.IsColumn e.1
  | [], _, _, _ => List.forall_mem_nil _
  | (column, v) :: rest, r, r', h => by
    rw [addColumns] at h
    split at h
    · cases h
    · rename_i p field hcolumn
      refine List.forall_mem_cons.2 ⟨?_, isColumn_of_addColumns h⟩
      exact ⟨p, field, Part.ofColumn?_eq_some_iff.1 hcolumn⟩

/-- A row that can be read is read as a proper response, which has a value just where the row has
it. -/
theorem ofRow_spec (hrow : Dict.Sorted row) (h : ofRow row = .ok r) : r.IsProper ∧
    ∀ p field, Dict.find? (r.part p) field = Dict.find? row (p.column field) := by
  obtain ⟨r', hr', hfind⟩ := exists_addColumns .empty hrow (isColumn_of_addColumns h)
  obtain rfl : r = r' := Except.ok.inj (h.symm.trans hr')
  refine ⟨isProper_addColumns h isProper_empty, fun p field => ?_⟩
  rw [hfind]
  exact Option.or_none

/-- The row of a proper response is read as that response, and no other row is. -/
theorem ofRow_eq_ok_iff (hrow : Dict.Sorted row) :
    ofRow row = .ok r ↔ r.IsProper ∧ r.toRow = row := by
  constructor
  · intro h
    obtain ⟨hproper, hvalues⟩ := ofRow_spec hrow h
    refine ⟨hproper, Dict.Sorted.ext (Dict.sorted_ofList _) hrow fun column => ?_⟩
    by_cases hcolumn : ∃ (p : Part) (field : String), column = p.column field
    · obtain ⟨p, field, rfl⟩ := hcolumn
      rw [find?_toRow (hproper.sorted p), hvalues]
    · -- a column without a label is in neither of the two rows
      push Not at hcolumn
      rw [find?_toRow_eq_none hcolumn, eq_comm, Dict.find?_eq_none_iff]
      rintro e he rfl
      obtain ⟨p, field, -, hname⟩ := isColumn_of_addColumns h e he
      exact hcolumn p field hname
  · rintro ⟨hproper, rfl⟩
    have hnames : ∀ e ∈ r.toRow, Part.IsColumn e.1 := by
      refine Dict.forall_ofList fun e he => ?_
      obtain ⟨p, field, hmem, hname⟩ := mem_columns.1 he
      exact ⟨p, field, hproper.readable p _ hmem, hname⟩
    obtain ⟨r', hr', -⟩ := exists_addColumns .empty hrow hnames
    obtain ⟨hproper', hvalues⟩ := ofRow_spec hrow hr'
    have hparts : r'.part = r.part := by
      funext p
      refine Dict.Sorted.ext (hproper'.sorted p) (hproper.sorted p) fun field => ?_
      rw [hvalues, find?_toRow (hproper.sorted p)]
    rw [ofRow, hr']
    exact congrArg (fun part => Except.ok (Response.mk part)) hparts

/-! ### Rows that are refused -/

/-- The first of some names that is not the name of a column. -/
inductive FirstMisnamed : List String → String → Prop
  | here {name : String} {rest : List String} (h : ¬ Part.IsColumn name) :
    FirstMisnamed (name :: rest) name
  | later {name found : String} {rest : List String} (h : Part.IsColumn name)
    (hrest : FirstMisnamed rest found) : FirstMisnamed (name :: rest) found

section
variable {names more : List String} {found : String}

theorem exists_firstMisnamed_iff :
    (∃ found, FirstMisnamed names found) ↔ ∃ name ∈ names, ¬ Part.IsColumn name := by
  constructor
  · rintro ⟨found, h⟩
    induction h with
    | here h => exact ⟨_, List.mem_cons_self .., h⟩
    | later _ _ ih =>
      obtain ⟨name, hmem, hname⟩ := ih
      exact ⟨name, List.mem_cons_of_mem _ hmem, hname⟩
  · rintro ⟨name, hmem, hname⟩
    induction names with
    | nil => cases hmem
    | cons first rest ih =>
      by_cases hfirst : Part.IsColumn first
      · rcases List.mem_cons.1 hmem with rfl | hmem
        · exact absurd hfirst hname
        · obtain ⟨found, hfound⟩ := ih hmem
          exact ⟨found, .later hfirst hfound⟩
      · exact ⟨first, .here hfirst⟩

theorem firstMisnamed_append : FirstMisnamed (names ++ more) found ↔
    FirstMisnamed names found ∨
      (∀ name ∈ names, Part.IsColumn name) ∧ FirstMisnamed more found := by
  induction names with
  | nil =>
    constructor
    · exact fun h => .inr ⟨List.forall_mem_nil _, h⟩
    · rintro (h | ⟨-, h⟩)
      · cases h
      · exact h
  | cons name rest ih =>
    rw [List.cons_append, List.forall_mem_cons]
    constructor
    · rintro (h | ⟨hname, h⟩)
      · exact .inl (.here h)
      · rcases ih.1 h with h | ⟨hrest, h⟩
        · exact .inl (.later hname h)
        · exact .inr ⟨⟨hname, hrest⟩, h⟩
    · rintro (h | ⟨⟨hname, hrest⟩, h⟩)
      · cases h with
        | here h => exact .here h
        | later hname h => exact .later hname (ih.2 (.inl h))
      · exact .later hname (ih.2 (.inr ⟨hrest, h⟩))

end

/-- Reading stops at the first column without a proper name and tells which one it is. -/
theorem addColumns_eq_error_iff {err : QueryError} : ∀ (row : Json.Row) (r : Response),
    r.addColumns row = .error err ↔
      ∃ column, FirstMisnamed row.keys column ∧ err = .unknownAggregateColumn column
  | [], r => by
    constructor
    · intro h
      cases h
    · rintro ⟨column, h, -⟩
      cases h
  | (column, v) :: rest, r => by
    rw [addColumns]
    cases hcolumn : Part.ofColumn? column with
    | none =>
      have hname := Part.ofColumn?_eq_none_iff.1 hcolumn
      constructor
      · intro h
        exact ⟨column, .here hname, (Except.error.inj h).symm⟩
      · rintro ⟨found, hfound, rfl⟩
        cases hfound with
        | here => rfl
        | later h => exact absurd h hname
    | some found =>
      obtain ⟨p, field⟩ := found
      have hname : Part.IsColumn column := ⟨p, field, Part.ofColumn?_eq_some_iff.1 hcolumn⟩
      refine (addColumns_eq_error_iff rest (r.insert p field v)).trans ?_
      constructor
      · rintro ⟨found, hfound, rfl⟩
        exact ⟨found, .later hname hfound, rfl⟩
      · rintro ⟨found, hfound, rfl⟩
        cases hfound with
        | here h => exact absurd hname h
        | later _ hfound => exact ⟨found, hfound, rfl⟩

theorem exists_ofRow_iff :
    (∃ r, ofRow row = .ok r) ↔ ∀ name ∈ row.keys, Part.IsColumn name := by
  constructor
  · rintro ⟨r, h⟩ name hname
    obtain ⟨e, he, rfl⟩ := List.mem_map.1 hname
    exact isColumn_of_addColumns h e he
  · intro h
    cases hrow : ofRow row with
    | ok r => exact ⟨r, rfl⟩
    | error err =>
      obtain ⟨column, hcolumn, -⟩ := (addColumns_eq_error_iff row _).1 hrow
      obtain ⟨name, hmem, hname⟩ := exists_firstMisnamed_iff.1 ⟨column, hcolumn⟩
      exact absurd (h name hmem) hname

end Response
end Aggregate

/-! ### Rows of an aggregate -/

namespace Service

open Aggregate (Part Response Spec)
open Aggregate.Response (FirstMisnamed)

variable {rows : List Json.Row}

/-- Rows are read as responses just when they are the rows of proper responses. -/
theorem responses_eq_ok_iff (hrows : ∀ row ∈ rows, Dict.Sorted row) {rs : List Response} :
    responses rows = .ok rs ↔ (∀ r ∈ rs, r.IsProper) ∧ rs.map Response.toRow = rows := by
  induction rows generalizing rs with
  | nil =>
    constructor
    · intro h
      obtain rfl := Except.ok.inj h
      exact ⟨List.forall_mem_nil _, rfl⟩
    · rintro ⟨-, h⟩
      rw [List.map_eq_nil_iff.1 h]
      rfl
  | cons row rest ih =>
    obtain ⟨hrow, hrest⟩ := List.forall_mem_cons.1 hrows
    simp only [responses, bind_eq_ok, pure_eq_ok, ih hrest, Response.ofRow_eq_ok_iff hrow]
    constructor
    · rintro ⟨r, ⟨hr, rfl⟩, rs, ⟨hrs, rfl⟩, rfl⟩
      exact ⟨List.forall_mem_cons.2 ⟨hr, hrs⟩, rfl⟩
    · rintro ⟨hproper, hmap⟩
      obtain ⟨r, rs, rfl, rfl, rfl⟩ := List.map_eq_cons_iff.1 hmap
      obtain ⟨hr, hrs⟩ := List.forall_mem_cons.1 hproper
      exact ⟨r, ⟨hr, rfl⟩, rs, ⟨hrs, rfl⟩, rfl⟩

theorem responses_eq_error_iff {err : QueryError} : responses rows = .error err ↔
    ∃ column, FirstMisnamed (rows.flatMap Dict.keys) column ∧
      err = .unknownAggregateColumn column := by
  induction rows with
  | nil =>
    constructor
    · intro h
      cases h
    · rintro ⟨column, h, -⟩
      cases h
  | cons row rest ih =>
    -- a row that is read leaves the error to the rows behind it
    have hstep : responses (row :: rest) = .error err ↔ Response.ofRow row = .error err ∨
        (∃ r, Response.ofRow row = .ok r) ∧ responses rest = .error err := by
      rw [responses, bind_eq_error]
      refine or_congr_right ?_
      rw [← exists_and_right]
      refine exists_congr fun r => and_congr_right fun _ => ?_
      rw [bind_eq_error]
      refine or_iff_left ?_
      rintro ⟨rs, -, h⟩
      cases h
    rw [hstep, ih, Response.exists_ofRow_iff,
      show Response.ofRow row = .error err ↔ _ from Response.addColumns_eq_error_iff row .empty]
    simp only [List.flatMap_cons, Response.firstMisnamed_append]
    constructor
    · rintro (⟨column, hcolumn, rfl⟩ | ⟨hrow, column, hcolumn, rfl⟩)
      · exact ⟨column, .inl hcolumn, rfl⟩
      · exact ⟨column, .inr ⟨hrow, hcolumn⟩, rfl⟩
    · rintro ⟨column, hcolumn | ⟨hrow, hcolumn⟩, rfl⟩
      · exact .inl ⟨column, hcolumn, rfl⟩
      · exact .inr ⟨hrow, column, hcolumn, rfl⟩

/-- Responses and result rows are two forms of one thing. The row of a proper response has a column
of its own for every value, under the name that the statement gives it, and is read as that
response. Rows that are read are the rows of what they are read as. The others are refused for the
first column without a proper name, and rows with such a column are always refused. -/
theorem responses_inverse :
    (∀ rs : List Response, (∀ r ∈ rs, r.IsProper) →
      (∀ r ∈ rs, ∀ aliasName, ((r.spec.items aliasName).filterMap Sql.Item.name?).Perm
          (r.columns.map (·.1)) ∧ (r.columns.map (·.1)).Nodup) ∧
        responses (rs.map Response.toRow) = .ok rs) ∧
      ∀ rows : List Json.Row, (∀ row ∈ rows, Dict.Sorted row) →
        (∀ rs, responses rows = .ok rs → rs.map Response.toRow = rows) ∧
        (∀ err, responses rows = .error err ↔
          ∃ column, FirstMisnamed (rows.flatMap Dict.keys) column ∧
            err = .unknownAggregateColumn column) ∧
        ((∃ column, responses rows = .error (.unknownAggregateColumn column)) ↔
          ∃ row ∈ rows, ∃ column ∈ Dict.keys row, ¬ Part.IsColumn column) := by
  constructor
  · intro rs hproper
    constructor
    · intro r hr aliasName
      exact ⟨r.perm_names_items aliasName, Response.nodup_columns (hproper r hr).sorted⟩
    · refine (responses_eq_ok_iff ?_).2 ⟨hproper, rfl⟩
      rintro row hrow
      obtain ⟨r, -, rfl⟩ := List.mem_map.1 hrow
      exact Dict.sorted_ofList _
  · intro rows hrows
    refine ⟨fun rs hrs => ((responses_eq_ok_iff hrows).1 hrs).2, fun err => responses_eq_error_iff,
      ?_⟩
    have hsome : (∃ found, FirstMisnamed (rows.flatMap Dict.keys) found) ↔ _ :=
      Response.exists_firstMisnamed_iff
    simp only [List.mem_flatMap] at hsome
    constructor
    · rintro ⟨column, h⟩
      obtain ⟨found, hfound, -⟩ := responses_eq_error_iff.1 h
      obtain ⟨name, ⟨row, hrow, hname⟩, hmisnamed⟩ := hsome.1 ⟨found, hfound⟩
      exact ⟨row, hrow, name, hname, hmisnamed⟩
    · rintro ⟨row, hrow, name, hname, hmisnamed⟩
      obtain ⟨found, hfound⟩ := hsome.2 ⟨name, ⟨row, hrow, hname⟩, hmisnamed⟩
      exact ⟨found, responses_eq_error_iff.2 ⟨found, hfound, rfl⟩⟩

/-- Fields that look like columns of other parts are read back, a label alone is refused. -/
theorem responses_inverse_labels :
    let r := (Response.empty.insert (.call .count) "GROUP_BY_id" (.int 2)).insert .groupBy "_"
      (.str "open")
    let row : Json.Row := [("COUNT_GROUP_BY_id", .int 2), ("GROUP_BY__", .str "open")]
    responses [row] = .ok [r] ∧ r.toRow = row ∧
      ∃ column, responses [row, [("COUNT_", .null)]] =
        .error (.unknownAggregateColumn column) := by
  intro r row
  have hrow : r.toRow = row := rfl
  have hsorted : Dict.Sorted row := hrow ▸ Dict.sorted_ofList _
  have hproper : r.IsProper :=
    (Response.isProper_empty.insert _ ⟨by decide, by decide⟩ _).insert _ ⟨by decide, by decide⟩ _
  have hread := (responses_inverse.1 [r] (List.forall_mem_singleton.2 hproper)).2
  rw [List.map_singleton, hrow] at hread
  refine ⟨hread, hrow, ?_⟩
  have hrows : ∀ row' ∈ [row, [("COUNT_", .null)]], Dict.Sorted row' :=
    List.forall_mem_cons.2 ⟨hsorted, List.forall_mem_singleton.2 (List.pairwise_singleton _ _)⟩
  refine (responses_inverse.2 _ hrows).2.2.2 ⟨[("COUNT_", .null)], by simp, "COUNT_",
    by simp [Dict.keys], ?_⟩
  exact Part.ofColumn?_eq_none_iff.1 (by decide)

end Service
end RowQuery
