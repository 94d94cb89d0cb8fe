import RowQuery.Proofs.Outcome
import RowQuery.Scoped.Condition
import RowQuery.Scoped.Truth
/-!
Filters made of filters.

A filter is accepted where it has a condition, and judged where it holds or does not on a row. Both
go through the ways in which filters are put together: groups, operators on one column and merging,
which is conjunction although it leaves filters out that say nothing.
-/

namespace RowQuery

/-- What filters are resolved against. -/
structure Scope where
  catalog : Catalog
  registry : Registry
  entity : Entity

namespace Scope

variable {x : Scope} {row : Json.Row}

/-- The filter has a condition. -/
def Accepts (x : Scope) (f : Filter) : Prop :=
  ∃ c, (f.scope x.catalog x.entity).condition x.registry x.entity.tableAlias = .ok c

/-- The filter is judged on a row. -/
def Judges (x : Scope) (f : Filter) (row : Json.Row) (b : Bool) : Prop :=
  (f.scope x.catalog x.entity).holds x.registry row = .ok b

/-! ### Groups -/

theorem scopeAll_eq_map (catalog : Catalog) (entity : Entity) (fs : List Filter) :
    Filter.scopeAll catalog entity fs = fs.map (Filter.scope catalog entity) := by
  induction fs with
  | nil => rw [Filter.scopeAll]; rfl
  | cons f rest ih => rw [Filter.scopeAll, ih, List.map_cons]

theorem scope_allOf (catalog : Catalog) (entity : Entity) (fs : List Filter) :
    (Filter.allOf fs).scope catalog entity
      = .node entity (fs.map (Filter.scope catalog entity)) [] [] := by
  simp only [Filter.allOf, Filter.scope, scopeAll_eq_map, List.map_nil, Filter.scopeFields]

theorem scope_anyOf (catalog : Catalog) (entity : Entity) (fs : List Filter) :
    (Filter.anyOf fs).scope catalog entity
      = .node entity [] (fs.map (Filter.scope catalog entity)) [] := by
  simp only [Filter.anyOf, Filter.scope, scopeAll_eq_map, List.map_nil, Filter.scopeFields]

theorem exists_trees {fs : List Filter} (h : ∀ f ∈ fs, x.Accepts f) :
    ∃ cs, Scoped.trees (Scoped.Site.test x.registry) x.entity.tableAlias
      (fs.map (Filter.scope x.catalog x.entity)) = .ok cs := by
  induction fs with
  | nil => exact ⟨[], rfl⟩
  | cons f rest ih =>
    obtain ⟨c, hc⟩ := h f (List.mem_cons_self ..)
    obtain ⟨cs, hcs⟩ := ih fun f hf => h f (List.mem_cons_of_mem _ hf)
    rw [Scoped.condition] at hc
    exact ⟨c :: cs, by rw [List.map_cons, Scoped.trees, hc, hcs]; rfl⟩

theorem holdsAll_eq {β : Filter → Bool} {fs : List Filter}
    (h : ∀ f ∈ fs, x.Judges f row (β f)) :
    Scoped.holdsAll x.registry row (fs.map (Filter.scope x.catalog x.entity))
      = .ok (fs.all β) := by
  induction fs with
  | nil => rfl
  | cons f rest ih =>
    have hf := h f (List.mem_cons_self ..)
    rw [List.map_cons, Scoped.holdsAll, ih fun f hf => h f (List.mem_cons_of_mem _ hf),
      show Scoped.holds _ _ _ = _ from hf, ok_bind, List.all_cons]
    cases β f <;> rfl

theorem holdsAny_eq {β : Filter → Bool} {fs : List Filter}
    (h : ∀ f ∈ fs, x.Judges f row (β f)) :
    Scoped.holdsAny x.registry row (fs.map (Filter.scope x.catalog x.entity))
      = .ok (fs.any β) := by
  induction fs with
  | nil => rfl
  | cons f rest ih =>
    have hf := h f (List.mem_cons_self ..)
    rw [List.map_cons, Scoped.holdsAny, ih fun f hf => h f (List.mem_cons_of_mem _ hf),
      show Scoped.holds _ _ _ = _ from hf, ok_bind, List.any_cons]
    cases β f <;> rfl

theorem accepts_allOf {fs : List Filter} (h : ∀ f ∈ fs, x.Accepts f) :
    x.Accepts (.allOf fs) := by
  obtain ⟨cs, hcs⟩ := exists_trees h
  rw [Accepts, scope_allOf, Scoped.condition]
  simp only [Scoped.tree, Scoped.trees, Scoped.fieldTrees, hcs, ok_bind]
  exact ⟨_, rfl⟩

theorem accepts_anyOf {fs : List Filter} (h : ∀ f ∈ fs, x.Accepts f) :
    x.Accepts (.anyOf fs) := by
  obtain ⟨cs, hcs⟩ := exists_trees h
  rw [Accepts, scope_anyOf, Scoped.condition]
  simp only [Scoped.tree, Scoped.trees, Scoped.fieldTrees, hcs, ok_bind]
  exact ⟨_, rfl⟩

theorem judges_allOf {β : Filter → Bool} {fs : List Filter}
    (h : ∀ f ∈ fs, x.Judges f row (β f)) : x.Judges (.allOf fs) row (fs.all β) := by
  rw [Judges, scope_allOf, Scoped.holds, holdsAll_eq h, ok_bind]
  cases fs.all β <;> rfl

theorem judges_anyOf {β : Filter → Bool} {fs : List Filter} (hne : fs ≠ [])
    (h : ∀ f ∈ fs, x.Judges f row (β f)) : x.Judges (.anyOf fs) row (fs.any β) := by
  rw [Judges, scope_anyOf, Scoped.holds, holdsAny_eq h]
  have hmap : (fs.map (Filter.scope x.catalog x.entity)).isEmpty = false := by
    rwa [List.isEmpty_eq_false_iff, ne_eq, List.map_eq_nil_iff]
  rw [hmap]
  cases fs.any β <;> rfl

/-! ### Columns -/

section
variable {name : String} {operators : List (String × Filter.Value)}

theorem scope_column (hname : x.entity.relation? name = none) :
    (Filter.node [] [] [(name, .comparison operators)]).scope x.catalog x.entity
      = .node x.entity [] [] [(name, .column operators)] := by
  simp only [Filter.scope, Filter.scopeAll, Filter.scopeFields, Filter.scopeEntry.eq_def, hname]

theorem scope_onField {catalog : Catalog} {e : Entity} (hname : e.relation? name = none)
    (op : Filter.Operator) (v : Filter.Value) :
    (Filter.onField name op v).scope catalog e = .node e [] [] [(name, .column [(op.name, v)])] :=
  scope_column (x := ⟨catalog, .empty, e⟩) hname

theorem scope_empty (catalog : Catalog) (e : Entity) :
    Filter.empty.scope catalog e = .node e [] [] [] := by
  simp only [Filter.empty, Filter.scope, Filter.scopeAll, Filter.scopeFields]

theorem scope_onRelation {catalog : Catalog} {e target : Entity} {relation : Relation}
    (hname : e.relation? name = some relation)
    (htarget : catalog.find? relation.target = some target) (f : Filter) :
    (Filter.onRelation name f).scope catalog e
      = .node e [] [] [(name, .related relation target (f.scope catalog target))] := by
  simp only [Filter.onRelation, Filter.scope, Filter.scopeAll, Filter.scopeFields,
    Filter.scopeEntry.eq_def, hname, htarget, Entry.filter?]

theorem scope_noFilter {catalog : Catalog} {e target : Entity} {relation : Relation}
    (hname : e.relation? name = some relation)
    (htarget : catalog.find? relation.target = some target)
    (hentry : (Entry.comparison operators).filter? = none) :
    (Filter.node [] [] [(name, .comparison operators)]).scope catalog e
      = .node e [] [] [(name, .noFilter relation target)] := by
  simp only [Filter.scope, Filter.scopeAll, Filter.scopeFields, Filter.scopeEntry.eq_def, hname,
    htarget]
  split
  · rfl
  · next hfilter =>
    rw [hentry] at hfilter
    cases hfilter

/-- The operators that a test can be made of on a column. -/
def Tests (x : Scope) (name op : String) (v : Filter.Value) : Prop :=
  ∃ t, Scoped.Site.test x.registry ⟨x.entity, x.entity.tableAlias, name, op, v⟩ = .ok t

theorem accepts_column (hname : x.entity.relation? name = none)
    (h : ∀ o ∈ operators, x.Tests name o.1 o.2) :
    x.Accepts (.node [] [] [(name, .comparison operators)]) := by
  have hleaves : ∃ ts, Scoped.leaves (Scoped.Site.test x.registry) x.entity
      x.entity.tableAlias name operators = .ok ts := by
    induction operators with
    | nil => exact ⟨[], rfl⟩
    | cons o rest ih =>
      obtain ⟨t, ht⟩ := h o (List.mem_cons_self ..)
      obtain ⟨ts, hts⟩ := ih fun o ho => h o (List.mem_cons_of_mem _ ho)
      exact ⟨.test t :: ts, by rw [Scoped.leaves, ht, hts]; rfl⟩
  obtain ⟨ts, hts⟩ := hleaves
  rw [Accepts, scope_column hname, Scoped.condition]
  simp only [Scoped.tree, Scoped.trees, Scoped.fieldTrees, Scoped.entryTree, hts, ok_bind]
  exact ⟨_, rfl⟩

theorem judges_column {β : String × Filter.Value → Bool}
    (hname : x.entity.relation? name = none) (hne : operators ≠ [])
    (h : ∀ o ∈ operators, Scoped.holdsOperator x.registry x.entity name
      ((Dict.find? row name).getD .null) o.1 o.2 = .ok (β o)) :
    x.Judges (.node [] [] [(name, .comparison operators)]) row (operators.any β) := by
  have hany : Scoped.anyOperator x.registry x.entity name ((Dict.find? row name).getD .null)
      operators = .ok (operators.any β) := by
    clear hne
    induction operators with
    | nil => rfl
    | cons o rest ih =>
      rw [Scoped.anyOperator, h o (List.mem_cons_self ..), ok_bind,
        ih fun o ho => h o (List.mem_cons_of_mem _ ho), List.any_cons]
      cases β o <;> rfl
  have hempty : operators.isEmpty = false := List.isEmpty_eq_false_iff.2 hne
  rw [Judges, scope_column hname]
  simp only [Scoped.holds, Scoped.holdsAll, Scoped.holdsFields, Scoped.holdsEntry, hany, hempty,
    ok_bind]
  cases operators.any β <;> rfl

end

/-! ### Merging -/

theorem relatedRows_ne_nil (v : Option Json.Value) : Scoped.relatedRows v ≠ [] := by
  unfold Scoped.relatedRows
  split <;> simp

theorem anyRow_eq_true {judge : Json.Row → Except QueryError Bool} {rows : List Json.Row}
    {b : Bool} (hne : rows ≠ []) (hjudge : ∀ related b, judge related = .ok b → b = true)
    (h : Scoped.anyRow judge rows = .ok b) : b = true := by
  cases rows with
  | nil => exact absurd rfl hne
  | cons related rest =>
    rw [Scoped.anyRow, bind_eq_ok] at h
    obtain ⟨a, ha, h⟩ := h
    rw [hjudge related a ha, if_pos rfl] at h
    exact (Except.ok.inj h).symm

theorem holds_empty (catalog : Catalog) (entity : Entity) (registry : Registry)
    (row : Json.Row) : (Filter.empty.scope catalog entity).holds registry row = .ok true := by
  rw [scope_empty]
  rfl

mutual

/-- A filter that says nothing holds where it is judged. -/
theorem eq_true_of_isEmpty {catalog : Catalog} {registry : Registry} : (f : Filter) →
    {entity : Entity} → {row : Json.Row} → {b : Bool} → f.isEmpty = true →
    (f.scope catalog entity).holds registry row = .ok b → b = true
  | .node ands ors fields, entity, row, b, hempty, h => by
    simp only [Filter.isEmpty, Bool.and_eq_true] at hempty
    obtain ⟨⟨hands, hors⟩, hfields⟩ := hempty
    rw [Filter.scope, Scoped.holds, bind_eq_ok] at h
    obtain ⟨a, ha, h⟩ := h
    rw [all_eq_true_of_isEmpty ands hands ha, if_pos rfl] at h
    split at h
    · exact fields_eq_true_of_isEmpty fields hfields h
    · rename_i hne
      obtain ⟨o, ho, h⟩ := bind_eq_ok.1 h
      have hors_ne : ors ≠ [] := by
        rintro rfl
        rw [Filter.scopeAll] at hne
        exact hne rfl
      rw [any_eq_true_of_isEmpty ors hors_ne hors ho, if_pos rfl] at h
      exact fields_eq_true_of_isEmpty fields hfields h

theorem all_eq_true_of_isEmpty {catalog : Catalog} {registry : Registry} : (fs : List Filter) →
    {entity : Entity} → {row : Json.Row} → {b : Bool} → Filter.isEmptyAll fs = true →
    Scoped.holdsAll registry row (Filter.scopeAll catalog entity fs) = .ok b → b = true
  | [], _, _, _, _, h => by
    rw [Filter.scopeAll] at h
    cases h; rfl
  | f :: rest, _, _, _, hempty, h => by
    simp only [Filter.isEmptyAll, Bool.and_eq_true] at hempty
    rw [Filter.scopeAll, Scoped.holdsAll, bind_eq_ok] at h
    obtain ⟨a, ha, h⟩ := h
    rw [eq_true_of_isEmpty f hempty.1 ha, if_pos rfl] at h
    exact all_eq_true_of_isEmpty rest hempty.2 h

theorem any_eq_true_of_isEmpty {catalog : Catalog} {registry : Registry} : (fs : List Filter) →
    {entity : Entity} → {row : Json.Row} → {b : Bool} → fs ≠ [] → Filter.isEmptyAll fs = true →
    Scoped.holdsAny registry row (Filter.scopeAll catalog entity fs) = .ok b → b = true
  | [], _, _, _, hne, _, _ => absurd rfl hne
  | f :: rest, _, _, _, _, hempty, h => by
    simp only [Filter.isEmptyAll, Bool.and_eq_true] at hempty
    rw [Filter.scopeAll, Scoped.holdsAny, bind_eq_ok] at h
    obtain ⟨a, ha, h⟩ := h
    rw [eq_true_of_isEmpty f hempty.1 ha, if_pos rfl] at h
    exact (Except.ok.inj h).symm

theorem fields_eq_true_of_isEmpty {catalog : Catalog} {registry : Registry} :
    (fields : List (String × Entry)) → {entity : Entity} → {row : Json.Row} → {b : Bool} →
    Filter.isEmptyFields fields = true →
    Scoped.holdsFields registry row entity (Filter.scopeFields catalog entity fields) = .ok b →
    b = true
  | [], _, _, _, _, h => by
    rw [Filter.scopeFields] at h
    cases h; rfl
  | (name, e) :: rest, _, _, _, hempty, h => by
    simp only [Filter.isEmptyFields, Bool.and_eq_true] at hempty
    rw [Filter.scopeFields, Scoped.holdsFields, bind_eq_ok] at h
    obtain ⟨a, ha, h⟩ := h
    rw [entry_eq_true_of_isEmpty e hempty.1 ha, if_pos rfl] at h
    exact fields_eq_true_of_isEmpty rest hempty.2 h

theorem entry_eq_true_of_isEmpty {catalog : Catalog} {registry : Registry} : (e : Entry) →
    {entity : Entity} → {name : String} → {row : Json.Row} → {b : Bool} →
    Filter.isEmptyEntry e = true →
    Scoped.holdsEntry registry row entity name (Filter.scopeEntry catalog entity name e) = .ok b →
    b = true
  | .comparison operators, entity, name, row, b, hempty, h => by
    obtain rfl := List.isEmpty_iff.1 hempty
    cases hrelation : entity.relation? name with
    | none =>
      simp only [Filter.scopeEntry.eq_def, hrelation, Scoped.holdsEntry, List.isEmpty_nil,
        if_true] at h
      exact (Except.ok.inj h).symm
    | some relation =>
      cases htarget : catalog.find? relation.target with
      | none =>
        simp only [Filter.scopeEntry.eq_def, hrelation, htarget, Scoped.holdsEntry] at h
        cases h
      | some target =>
        simp only [Filter.scopeEntry.eq_def, hrelation, htarget, Entry.filter?,
          Scoped.holdsEntry] at h
        refine anyRow_eq_true (relatedRows_ne_nil _) (fun related a ha => ?_) h
        rw [holds_empty] at ha
        exact (Except.ok.inj ha).symm
  | .related f, entity, name, row, b, hempty, h => by
    cases hrelation : entity.relation? name with
    | none =>
      simp only [Filter.scopeEntry.eq_def, hrelation, Scoped.holdsEntry] at h
      cases h
    | some relation =>
      cases htarget : catalog.find? relation.target with
      | none =>
        simp only [Filter.scopeEntry.eq_def, hrelation, htarget, Scoped.holdsEntry] at h
        cases h
      | some target =>
        simp only [Filter.scopeEntry.eq_def, hrelation, htarget, Entry.filter?,
          Scoped.holdsEntry] at h
        exact anyRow_eq_true (relatedRows_ne_nil _)
          (fun related a ha => eq_true_of_isEmpty f hempty ha) h

end

theorem accepts_merge {f g : Filter} (hf : x.Accepts f) (hg : x.Accepts g) :
    x.Accepts (f.merge g) := by
  rw [Filter.merge]
  split
  · exact hg
  · split
    · exact hf
    · exact accepts_allOf (by simp [hf, hg])

/-- A merged filter is judged by the first filter and, where that holds, by the second; a filter
that says nothing is not asked. -/
theorem holds_merge (x : Scope) (row : Json.Row) (f g : Filter) :
    ((f.merge g).scope x.catalog x.entity).holds x.registry row
      = if f.isEmpty then (g.scope x.catalog x.entity).holds x.registry row
        else if g.isEmpty then (f.scope x.catalog x.entity).holds x.registry row
        else (f.scope x.catalog x.entity).holds x.registry row >>= fun a =>
          if a then (g.scope x.catalog x.entity).holds x.registry row else .ok false := by
  rw [Filter.merge]
  split
  · rfl
  · split
    · rfl
    · rw [scope_allOf, Scoped.holds, List.map_cons, List.map_cons, List.map_nil,
        Scoped.holdsAll, Scoped.holdsAll, Scoped.holdsAll]
      cases (f.scope x.catalog x.entity).holds x.registry row with
      | error fault => rfl
      | ok a =>
        cases a with
        | false => rfl
        | true =>
          cases (g.scope x.catalog x.entity).holds x.registry row with
          | error fault => rfl
          | ok b => cases b <;> rfl

theorem judges_merge {f g : Filter} {a b : Bool} (hf : x.Judges f row a)
    (hg : x.Judges g row b) : x.Judges (f.merge g) row (a && b) := by
  rw [Judges] at hf hg
  rw [Judges, holds_merge, hf, hg]
  split
  · next hempty => rw [eq_true_of_isEmpty f hempty hf, Bool.true_and]
  · split
    · next hempty => rw [eq_true_of_isEmpty g hempty hg, Bool.and_true]
    · cases a <;> rfl

/-- Merging filters is conjunction. A filter that says nothing holds where it is judged, so nothing
is lost when it is left out, and the merged filter fails only as one of the two does. -/
theorem merge_conjoins (x : Scope) (row : Json.Row) (f g : Filter) :
    (∀ a b, x.Judges f row a → x.Judges g row b → x.Judges (f.merge g) row (a && b)) ∧
      (f.isEmpty = true → ∀ a, x.Judges f row a → a = true) ∧
      ∀ fault, ((f.merge g).scope x.catalog x.entity).holds x.registry row = .error fault →
        (f.scope x.catalog x.entity).holds x.registry row = .error fault ∨
          (g.scope x.catalog x.entity).holds x.registry row = .error fault := by
  refine ⟨fun a b => judges_merge, fun hempty a => eq_true_of_isEmpty f hempty,
    fun fault hfault => ?_⟩
  rw [holds_merge] at hfault
  split at hfault
  · exact .inr hfault
  · split at hfault
    · exact .inl hfault
    · rcases bind_eq_error.1 hfault with hf | ⟨a, -, hrest⟩
      · exact .inl hf
      · cases a with
        | false => cases hrest
        | true => exact .inr hrest

/-- Groups, related rows and a comparison that all say nothing, on a task of whose sub-tasks one is
no row; then two filters that both say something. -/
theorem merge_conjoins_tasks :
    let sub : Entity := ⟨"sub_task", "sub_tasks", none, [], [⟨"done", .boolean⟩], []⟩
    let subTasks : Relation := ⟨"subTasks", "sub_task", none, .left, "id", "task_id"⟩
    let task : Entity := ⟨"task", "tasks", none, ["id"], [⟨"id", .integer⟩, ⟨"title", .text⟩],
      [subTasks]⟩
    let x : Scope := ⟨⟨[task, sub]⟩, .empty, task⟩
    let row : Json.Row := [("id", .int 1), ("subTasks", .arr [.str "", .obj []]),
      ("title", .str "a")]
    let void := Filter.node [.empty] [.allOf [], .empty] [("subTasks", .related (.anyOf [.empty])),
      ("title", .comparison [])]
    let title := Filter.onField "title" .eq (.str "a")
    let id := Filter.onField "id" .gt (.int 1)
    (void.isEmpty = true ∧ x.Judges void row true ∧ x.Judges (void.merge title) row true) ∧
      x.Judges title row true ∧ x.Judges id row false ∧ x.Judges (title.merge id) row false := by
  intro sub subTasks task x row void title id
  have hvoid : x.Judges void row true := by
    have hrelation : x.entity.relation? "subTasks" = some subTasks := rfl
    have htarget : x.catalog.find? subTasks.target = some sub := rfl
    have hcolumn : x.entity.relation? "title" = none := rfl
    simp only [Judges, void, Filter.anyOf, Filter.allOf, Filter.empty, Filter.scope,
      Filter.scopeAll, Filter.scopeFields, Filter.scopeEntry.eq_def, hrelation, htarget, hcolumn,
      Entry.filter?]
    rfl
  have htitle : x.Judges title row true := by
    rw [Judges, scope_onField rfl]
    rfl
  have hid : x.Judges id row false := by
    rw [Judges, scope_onField rfl]
    rfl
  exact ⟨⟨rfl, hvoid, (merge_conjoins x row void title).1 true true hvoid htitle⟩, htitle, hid,
    (merge_conjoins x row title id).1 true false htitle hid⟩

end Scope
end RowQuery
