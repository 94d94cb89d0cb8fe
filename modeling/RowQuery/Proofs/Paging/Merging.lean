import RowQuery.Proofs.Joins.Routes
import RowQuery.Proofs.Paging.CursorText
import RowQuery.Proofs.Paging.Keyset
/-!
What a cursor does to the filter of a request.

The rows beyond a cursor are asked for by a filter of their own, which is merged with that of the
request. Merging leaves a filter out that says nothing of any field. Such a filter may still name
relations: without a cursor their joins are made, or the filter is refused, and with a cursor
neither happens. Every other filter is treated alike on every page.
-/

namespace RowQuery

/-! ### Entries of a filter -/

namespace Filter

mutual

/-- The entries of a filter for its own entity, in the order of the tree. -/
def entries : Filter → List (String × Entry)
  | .node ands ors fields => entriesAll ands ++ entriesAll ors ++ fields

/-- `entries` of every filter. -/
def entriesAll : List Filter → List (String × Entry)
  | [] => []
  | f :: rest => entries f ++ entriesAll rest

end

/-- The entry is about a column: a comparison under a name that is no relation. -/
def IsColumn (e : Entity) (p : String × Entry) : Prop :=
  e.relation? p.1 = none ∧ ∃ operators, p.2 = .comparison operators

end Filter

namespace Scoped

section
variable {τ : Type} {leaf : Site → Except QueryError τ} {base : String}

theorem exists_tree_node_iff {entity : Entity} {ands ors : List Scoped}
    {fields : List (String × ScopedEntry)} :
    (∃ c, (Scoped.node entity ands ors fields).tree leaf base = .ok c) ↔
      (∃ cs, trees leaf base ands = .ok cs) ∧ (∃ cs, trees leaf base ors = .ok cs) ∧
        ∃ cs, fieldTrees leaf base entity fields = .ok cs := by
  simp only [tree, bind_eq_ok, pure_eq_ok]
  constructor
  · rintro ⟨_, a, ha, o, ho, b, hb, -⟩
    exact ⟨⟨a, ha⟩, ⟨o, ho⟩, b, hb⟩
  · rintro ⟨⟨a, ha⟩, ⟨o, ho⟩, b, hb⟩
    exact ⟨_, a, ha, o, ho, b, hb, rfl⟩

theorem exists_trees_cons_iff {f : Scoped} {rest : List Scoped} :
    (∃ cs, trees leaf base (f :: rest) = .ok cs) ↔
      (∃ c, f.tree leaf base = .ok c) ∧ ∃ cs, trees leaf base rest = .ok cs := by
  simp only [trees, bind_eq_ok, pure_eq_ok]
  constructor
  · rintro ⟨_, c, hc, cs, hcs, -⟩
    exact ⟨⟨c, hc⟩, cs, hcs⟩
  · rintro ⟨⟨c, hc⟩, cs, hcs⟩
    exact ⟨_, c, hc, cs, hcs, rfl⟩

theorem exists_fieldTrees_cons_iff {entity : Entity} {name : String} {e : ScopedEntry}
    {rest : List (String × ScopedEntry)} :
    (∃ cs, fieldTrees leaf base entity ((name, e) :: rest) = .ok cs) ↔
      (∃ c, entryTree leaf base entity name e = .ok c) ∧
        ∃ cs, fieldTrees leaf base entity rest = .ok cs := by
  simp only [fieldTrees, bind_eq_ok, pure_eq_ok]
  constructor
  · rintro ⟨_, c, hc, cs, hcs, -⟩
    exact ⟨⟨c, hc⟩, cs, hcs⟩
  · rintro ⟨⟨c, hc⟩, cs, hcs⟩
    exact ⟨_, c, hc, cs, hcs, rfl⟩

variable (leaf base) (catalog : Catalog) (entity : Entity)

/-- An entry that says nothing is accepted without a join just when it is about a column. -/
theorem exists_entryTree_iff {name : String} : (e : Entry) → Filter.isEmptyEntry e = true →
    ((∃ c, entryTree leaf base entity name (Filter.scopeEntry catalog entity name e) = .ok c) ∧
        routesEntry (Filter.scopeEntry catalog entity name e) = [] ↔
      Filter.IsColumn entity (name, e))
  | .comparison operators, hempty => by
    obtain rfl := List.isEmpty_iff.1 hempty
    rw [Filter.IsColumn, Filter.scopeEntry.eq_def]
    cases hrelation : entity.relation? name with
    | none =>
      simp only [entryTree, leaves, routesEntry]
      exact ⟨fun _ => ⟨trivial, [], rfl⟩, fun _ => ⟨⟨_, rfl⟩, trivial⟩⟩
    | some relation =>
      cases htarget : catalog.find? relation.target with
      | none => simp [htarget, entryTree]
      | some target => simp [htarget, Entry.filter?, routesEntry]
  | .related f, _ => by
    rw [Filter.IsColumn, Filter.scopeEntry.eq_def]
    cases hrelation : entity.relation? name with
    | none => simp [entryTree]
    | some relation =>
      cases htarget : catalog.find? relation.target with
      | none => simp [htarget, entryTree]
      | some target => simp [htarget, Entry.filter?, routesEntry]

theorem exists_fieldTrees_iff : (fields : List (String × Entry)) →
    Filter.isEmptyFields fields = true →
    ((∃ cs, fieldTrees leaf base entity (Filter.scopeFields catalog entity fields) = .ok cs) ∧
        routesFields (Filter.scopeFields catalog entity fields) = [] ↔
      ∀ p ∈ fields, Filter.IsColumn entity p)
  | [], _ => by
    rw [Filter.scopeFields]
    simp [fieldTrees, routesFields]
  | (name, e) :: rest, hempty => by
    simp only [Filter.isEmptyFields, Bool.and_eq_true] at hempty
    rw [Filter.scopeFields, exists_fieldTrees_cons_iff, routesFields, List.append_eq_nil_iff,
      List.forall_mem_cons, and_and_and_comm,
      exists_entryTree_iff leaf base catalog entity e hempty.1, exists_fieldTrees_iff rest hempty.2]

mutual

/-- A filter that says nothing is accepted without joins just when it is about columns only. -/
theorem exists_tree_iff : (f : Filter) → f.isEmpty = true →
    ((∃ c, (f.scope catalog entity).tree leaf base = .ok c) ∧
        (f.scope catalog entity).routes = [] ↔
      ∀ p ∈ f.entries, Filter.IsColumn entity p)
  | .node ands ors fields, hempty => by
    simp only [Filter.isEmpty, Bool.and_eq_true] at hempty
    obtain ⟨⟨hands, hors⟩, hfields⟩ := hempty
    have ha := exists_trees_iff ands hands
    have ho := exists_trees_iff ors hors
    have hb := exists_fieldTrees_iff leaf base catalog entity fields hfields
    rw [Filter.scope, exists_tree_node_iff, routes, Filter.entries]
    simp only [List.append_eq_nil_iff, List.mem_append, or_imp, forall_and]
    rw [← ha, ← ho, ← hb]
    tauto

theorem exists_trees_iff : (fs : List Filter) → Filter.isEmptyAll fs = true →
    ((∃ cs, trees leaf base (Filter.scopeAll catalog entity fs) = .ok cs) ∧
        routesAll (Filter.scopeAll catalog entity fs) = [] ↔
      ∀ p ∈ Filter.entriesAll fs, Filter.IsColumn entity p)
  | [], _ => by
    rw [Filter.scopeAll]
    simp [trees, routesAll, Filter.entriesAll]
  | f :: rest, hempty => by
    simp only [Filter.isEmptyAll, Bool.and_eq_true] at hempty
    rw [Filter.scopeAll, exists_trees_cons_iff, routesAll, List.append_eq_nil_iff,
      Filter.entriesAll, List.forall_mem_append, and_and_and_comm, exists_tree_iff f hempty.1,
      exists_trees_iff rest hempty.2]

end
end

theorem routesAll_eq_nil {fs : List Scoped} (h : ∀ f ∈ fs, f.routes = []) : routesAll fs = [] := by
  induction fs with
  | nil => rfl
  | cons f rest ih =>
    rw [routesAll, h f (List.mem_cons_self ..), ih fun f hf => h f (List.mem_cons_of_mem _ hf)]
    rfl

/-- There are no joins just when there are no routes. -/
theorem joins_eq_nil_iff (f : Scoped) (base : String) : f.joins base = [] ↔ f.routes = [] := by
  constructor
  · intro h
    refine List.eq_nil_iff_forall_not_mem.2 fun r hr => ?_
    obtain ⟨first, -, -, hjoin⟩ := exists_joinUnder f base hr
    rw [joinUnder, h] at hjoin
    cases hjoin
  · intro h
    rw [joins_eq_foldl, h]
    rfl

end Scoped

/-! ### The filter beyond a cursor -/

namespace Scope

variable {x : Scope}

/-- A filter of the kind that a seek is made of: accepted, without joins, and saying something. -/
structure IsBound (x : Scope) (f : Filter) : Prop where
  accepts : x.Accepts f
  unjoined : (f.scope x.catalog x.entity).routes = []
  nonvoid : f.isEmpty = false

theorem isBound_column {name : String} {operators : List (String × Filter.Value)}
    (hname : x.entity.relation? name = none) (hne : operators ≠ [])
    (h : x.Accepts (.node [] [] [(name, .comparison operators)])) :
    x.IsBound (.node [] [] [(name, .comparison operators)]) where
  accepts := h
  unjoined := by rw [scope_column hname]; rfl
  nonvoid := by simp [Filter.isEmpty, Filter.isEmptyAll, Filter.isEmptyFields, Filter.isEmptyEntry,
    hne]

section
variable {fs : List Filter} (hne : fs ≠ []) (h : ∀ f ∈ fs, x.IsBound f)
include hne h

theorem isEmptyAll_of_isBound : Filter.isEmptyAll fs = false := by
  obtain ⟨f, rest, rfl⟩ := List.exists_cons_of_ne_nil hne
  rw [Filter.isEmptyAll, (h f (List.mem_cons_self ..)).nonvoid, Bool.false_and]

theorem isBound_allOf : x.IsBound (.allOf fs) where
  accepts := accepts_allOf fun f hf => (h f hf).accepts
  unjoined := by
    have hnone := Scoped.routesAll_eq_nil (List.forall_mem_map.2 fun f hf => (h f hf).unjoined)
    rw [scope_allOf, Scoped.routes, hnone]
    rfl
  nonvoid := by
    rw [Filter.allOf, Filter.isEmpty, isEmptyAll_of_isBound hne h, Bool.false_and, Bool.false_and]

theorem isBound_anyOf : x.IsBound (.anyOf fs) where
  accepts := accepts_anyOf fun f hf => (h f hf).accepts
  unjoined := by
    have hnone := Scoped.routesAll_eq_nil (List.forall_mem_map.2 fun f hf => (h f hf).unjoined)
    rw [scope_anyOf, Scoped.routes, hnone]
    rfl
  nonvoid := by
    rw [Filter.anyOf, Filter.isEmpty, isEmptyAll_of_isBound hne h, Bool.and_false, Bool.false_and]

end

theorem isBound_agreesWith {name : String} (hx : x.IsPlain name) {w : Filter.Value}
    (hw : w.isScalar = true) : x.IsBound (Filter.agreesWith name w) := by
  have haccepts := accepts_agreesWith hx hw
  cases w with
  | null | bool | int | float | str | list | range =>
    exact isBound_column hx.noRelation (List.cons_ne_nil _ _) haccepts

theorem isBound_comesAfter {s : SortField} (hx : x.IsPlain s.field) {w : Filter.Value}
    (hw : w.isScalar = true) {f : Filter} (hf : Filter.comesAfter? s w = some f) :
    x.IsBound f := by
  have hspec := comesAfter?_spec hx hw
  rw [hf] at hspec
  by_cases hnull : w = .null
  · subst hnull
    rw [comesAfter?_null] at hf
    cases hn : s.effectiveNulls with
    | last => simp [hn] at hf
    | first =>
      obtain rfl : Filter.node [] [] [(s.field, .comparison [("isNot", .null)])] = f := by
        simpa [hn] using hf
      exact isBound_column hx.noRelation (List.cons_ne_nil _ _) hspec.1
  · rw [comesAfter?_of_ne_null hnull, Option.some.injEq] at hf
    subst hf
    exact isBound_column hx.noRelation (beyondOperators_ne_nil s w) hspec.1

theorem isBound_nothingAfter {s : SortField} (hx : x.IsPlain s.field) (sort : SortOrder) :
    x.IsBound (Filter.nothingAfter (s :: sort)) := by
  obtain ⟨-, -, -, his, hisNot⟩ := hx.tests (show Filter.Value.null.isScalar = true from rfl)
  refine isBound_allOf (List.cons_ne_nil _ _) ?_
  simp only [List.forall_mem_cons, List.not_mem_nil, false_imp_iff, implies_true, and_true]
  exact ⟨isBound_column hx.noRelation (List.cons_ne_nil _ _)
      (accepts_column hx.noRelation (List.forall_mem_singleton.2 his)),
    isBound_column hx.noRelation (List.cons_ne_nil _ _)
      (accepts_column hx.noRelation (List.forall_mem_singleton.2 hisNot))⟩

/-- The terms of a seek past any scalars are bounds. -/
theorem exists_seekTerms : ∀ (sort : SortOrder) (keys : List KeyField) (agreed : List Filter),
    (∀ s ∈ sort, x.IsPlain s.field) →
    (∀ k ∈ keys, ∃ w, Filter.keyScalar k = .ok w ∧ w.isScalar = true) →
    (∀ f ∈ agreed, x.IsBound f) →
    ∃ terms, Filter.seekTerms agreed sort keys = .ok terms ∧ ∀ t ∈ terms, x.IsBound t
  | [], _, _, _, _, _ | _ :: _, [], _, _, _, _ => ⟨[], rfl, List.forall_mem_nil _⟩
  | s :: sort, k :: keys, agreed, hplain, hkeys, hagreed => by
    have hx := hplain s (List.mem_cons_self ..)
    obtain ⟨w, hkey, hw⟩ := hkeys k (List.mem_cons_self ..)
    obtain ⟨terms, hterms, hbounds⟩ := exists_seekTerms sort keys
      (agreed ++ [Filter.agreesWith s.field w]) (fun t ht => hplain t (List.mem_cons_of_mem _ ht))
      (fun k hk => hkeys k (List.mem_cons_of_mem _ hk))
      (List.forall_mem_append.2 ⟨hagreed, List.forall_mem_singleton.2 (isBound_agreesWith hx hw)⟩)
    rw [seekTerms_cons hkey hterms]
    refine ⟨_, rfl, ?_⟩
    cases hafter : Filter.comesAfter? s w with
    | none => exact hbounds
    | some after =>
      have hterm := isBound_comesAfter hx hw hafter
      refine List.forall_mem_cons.2 ⟨?_, hbounds⟩
      split
      · exact hterm
      · exact isBound_allOf (by simp)
          (List.forall_mem_append.2 ⟨hagreed, List.forall_mem_singleton.2 hterm⟩)

/-- The filter of the rows that come after any scalars is a bound. -/
theorem exists_seek {sort : SortOrder} {keys : List KeyField} (hne : sort ≠ [])
    (hplain : ∀ s ∈ sort, x.IsPlain s.field)
    (hkeys : ∀ k ∈ keys, ∃ w, Filter.keyScalar k = .ok w ∧ w.isScalar = true) :
    ∃ f, Filter.seek sort keys = .ok f ∧ x.IsBound f := by
  obtain ⟨terms, hterms, hbounds⟩ := exists_seekTerms sort keys [] hplain hkeys
    (List.forall_mem_nil _)
  rw [Filter.seek, hterms, ok_bind]
  rcases terms with _ | ⟨term, _ | ⟨term', rest⟩⟩
  · obtain ⟨s, rest, rfl⟩ := List.exists_cons_of_ne_nil hne
    exact ⟨_, rfl, isBound_nothingAfter (hplain s (List.mem_cons_self ..)) rest⟩
  · exact ⟨term, rfl, hbounds term (List.mem_singleton_self _)⟩
  · exact ⟨_, rfl, isBound_anyOf (List.cons_ne_nil _ _) hbounds⟩

end Scope

/-- A scalar of a cursor can be compared with. -/
theorem Cursor.exists_keyScalar {k : KeyField} (h : IsScalar k.value) :
    ∃ w, Filter.keyScalar k = .ok w ∧ w.isScalar = true := by
  have hvalue : ∃ w, Filter.Value.ofJson? k.value = some w ∧ w.isScalar = true := by
    match hv : k.value with
    | .null => exact ⟨.null, rfl, rfl⟩
    | .bool b => exact ⟨.bool b, rfl, rfl⟩
    | .str t => exact ⟨.str t, rfl, rfl⟩
    | .num (.float y) => exact ⟨.float y, rfl, rfl⟩
    | .num (.int i) =>
      rw [hv] at h
      cases hfits : Json.fitsInt64 i with
      | true =>
        exact ⟨.int i, by simp [Filter.Value.ofJson?, Filter.Value.ofNumber?, Json.Number.int64?,
          hfits], rfl⟩
      | false =>
        -- beyond the signed integers the nearest float is compared with
        have hsize : i.natAbs < 2 ^ 64 := by
          obtain ⟨hmin, hmax⟩ : Json.FitsJson i := h
          have hmin' : Json.minInt64 = -(2 ^ 63) := rfl
          have hmax' : (Json.maxUInt64 : Int) = 2 ^ 64 - 1 := rfl
          omega
        obtain ⟨y, hy⟩ := Option.isSome_iff_exists.1 (Binary64.isSome_ofInt? hsize)
        exact ⟨.float y, by simp [Filter.Value.ofJson?, Filter.Value.ofNumber?, Json.Number.int64?,
          Json.Number.binary64?, hfits, hy], rfl⟩
    | .arr _ | .obj _ =>
      rw [hv] at h
      exact h.elim
  obtain ⟨w, hw, hscalar⟩ := hvalue
  exact ⟨w, by simp only [Filter.keyScalar, hw, hscalar, if_true], hscalar⟩

/-! ### Pages with a cursor and without one -/

/-- Whether repeated rows are left out: where rows go through joins. -/
def Sql.Rows.isDistinct (r : Sql.Rows) : Bool := !r.joins.isEmpty

theorem Sql.Rows.pieces_eq (r : Sql.Rows) :
    r.pieces = .text ("SELECT " ++ (if r.isDistinct then "DISTINCT " else "")
      ++ quoted r.aliasName ++ ".*") :: r.sourcePieces := by
  rw [pieces, isDistinct]
  cases r.joins.isEmpty <;> rfl

/-- What rows are selected from: the table, the joins and whether repeated rows are left out. -/
def Sql.Rows.source (r : Sql.Rows) : String × List Sql.Join × Bool :=
  (r.table, r.joins, r.isDistinct)

/-- What the rows of a page are selected from, or why the page is refused. -/
def PagedFetch.source (result : Except QueryError PagedFetch) :
    Except QueryError (String × List Sql.Join × Bool) :=
  result.map fun p => p.fetch.statement.rows.source

namespace Compiler

variable {c : Compiler} {e : Entity} {f : Filter}

/-- What the rows of an entity under a filter are selected from. -/
def sourceOf (c : Compiler) (e : Entity) (f : Filter) :
    Except QueryError (String × List Sql.Join × Bool) :=
  (c.rows e f).map Sql.Rows.source

theorem sourceOf_of_ok {condition : Option Sql.Condition}
    (h : (f.scope c.catalog e).condition c.registry e.tableAlias = .ok condition) :
    c.sourceOf e f = .ok (e.table, (f.scope c.catalog e).joins e.tableAlias,
      !((f.scope c.catalog e).joins e.tableAlias).isEmpty) := by
  simp only [sourceOf, rows, h, ok_bind]
  rfl

theorem sourceOf_of_error {fault : QueryError}
    (h : (f.scope c.catalog e).condition c.registry e.tableAlias = .error fault) :
    c.sourceOf e f = .error fault := by
  simp only [sourceOf, rows, h]
  rfl

/-- A bound alone is selected from the table alone. -/
theorem sourceOf_isBound (hf : (c.scope e).IsBound f) :
    c.sourceOf e f = .ok (e.table, [], false) := by
  obtain ⟨condition, hcondition⟩ := hf.accepts
  have hjoins : (f.scope c.catalog e).joins e.tableAlias = [] :=
    (Scoped.joins_eq_nil_iff _ _).2 hf.unjoined
  rw [sourceOf_of_ok (c := c) (e := e) hcondition, hjoins]
  rfl

/-- A filter that says nothing is selected from the table alone just when it is about columns. -/
theorem sourceOf_eq_table_iff (hvoid : f.isEmpty = true) :
    c.sourceOf e f = .ok (e.table, [], false) ↔ ∀ p ∈ f.entries, Filter.IsColumn e p := by
  rw [← Scoped.exists_tree_iff (Scoped.Site.test c.registry) e.tableAlias c.catalog e f hvoid]
  cases hcondition : (f.scope c.catalog e).condition c.registry e.tableAlias with
  | error fault =>
    rw [Scoped.condition] at hcondition
    rw [sourceOf_of_error hcondition, hcondition]
    simp
  | ok condition =>
    rw [sourceOf_of_ok hcondition, ← Scoped.joins_eq_nil_iff _ e.tableAlias]
    rw [Scoped.condition] at hcondition
    rw [hcondition]
    constructor
    · intro h
      exact ⟨⟨_, rfl⟩, (Prod.mk.inj (Prod.mk.inj (Except.ok.inj h)).2).1⟩
    · rintro ⟨-, h⟩
      rw [h]
      rfl

/-- A bound that is merged with a filter that says something does not change what the rows are
selected from, nor why the filter is refused. -/
theorem sourceOf_merge {g : Filter} (hf : f.isEmpty = false) (hg : (c.scope e).IsBound g) :
    c.sourceOf e (f.merge g) = c.sourceOf e f := by
  obtain ⟨bound, hbound⟩ := hg.accepts
  have hmerge : f.merge g = .allOf [f, g] := by
    rw [Filter.merge, hf, hg.nonvoid]
    rfl
  have hscope : (f.merge g).scope c.catalog e
      = .node e [f.scope c.catalog e, g.scope c.catalog e] [] [] := by
    rw [hmerge, Scope.scope_allOf, List.map_cons, List.map_cons, List.map_nil]
  have hjoins : ((f.merge g).scope c.catalog e).joins e.tableAlias
      = (f.scope c.catalog e).joins e.tableAlias := by
    have hg := hg.unjoined
    rw [hscope, Scoped.joins_eq_foldl, Scoped.joins_eq_foldl]
    simp only [Scoped.routes, Scoped.routesAll, Scoped.routesFields, List.append_nil]
    rw [show (g.scope c.catalog e).routes = [] from hg, List.append_nil]
  have hbound : (g.scope c.catalog e).tree (Scoped.Site.test c.registry) e.tableAlias = .ok bound :=
    hbound
  cases hcondition : (f.scope c.catalog e).condition c.registry e.tableAlias with
  | error fault =>
    rw [sourceOf_of_error hcondition]
    refine sourceOf_of_error ?_
    rw [Scoped.condition] at hcondition
    simp only [hscope, Scoped.condition, Scoped.tree, Scoped.trees, hcondition]
    rfl
  | ok condition =>
    rw [sourceOf_of_ok hcondition]
    rw [Scoped.condition] at hcondition
    have haccepted : ∃ d, ((f.merge g).scope c.catalog e).condition c.registry e.tableAlias
        = .ok d := by
      rw [hscope, Scoped.condition]
      simp only [Scoped.tree, Scoped.trees, Scoped.fieldTrees, hcondition, hbound, ok_bind]
      exact ⟨_, rfl⟩
    obtain ⟨d, hd⟩ := haccepted
    rw [sourceOf_of_ok hd, hjoins]

open PageRequest

theorem source_page {name : String} {sort : SortOrder} {size : Nat} {backward : Bool}
    {text : Option String} {cursor : Option Cursor} {p : SeekPlan}
    (hfound : c.catalog.find? name = some e) (hkeyed : e.keySet ≠ [])
    (hsize : c.policy.check size = .ok size) (hcursor : Page.cursor? text = .ok cursor)
    (hplan : SeekPlan.ofPage (sort.withKeySet e.keySet) (PageRequest.page backward size cursor)
      = .ok p) :
    PagedFetch.source (c.page name f sort (arguments backward size text))
      = c.sourceOf e (within f p.beyond) := by
  have hentity : c.entity name = .ok e := by rw [entity, hfound]
  simp only [Compiler.page, hentity, ok_bind, ofArguments_arguments hsize hcursor,
    plan_eq_seek hkeyed hplan, select, sourceOf]
  cases c.rows e (within f p.beyond) <;> rfl

/-- A cursor of scalars is sought with a bound. -/
theorem exists_ofPage_keyset {sort : SortOrder} {keys : List KeyField} (hne : sort ≠ [])
    (hfields : keys.map KeyField.field = sort.map SortField.field)
    (hscalar : ∀ k ∈ keys, Cursor.IsScalar k.value)
    (hplain : ∀ s ∈ sort, (c.scope e).IsPlain s.field) (size : Nat) (backward : Bool) :
    ∃ g, SeekPlan.ofPage sort (PageRequest.page backward size (some (.keyset keys)))
        = .ok ⟨sort, size, backward, true, some g⟩ ∧ (c.scope e).IsBound g := by
  have hplain' : ∀ s ∈ SeekPlan.querySortOf backward sort, (c.scope e).IsPlain s.field := by
    intro s hs
    obtain ⟨t, ht, hfield⟩ := exists_field_of_mem_querySortOf hs
    exact hfield ▸ hplain t ht
  obtain ⟨g, hg, hbound⟩ := Scope.exists_seek (querySortOf_ne_nil hne) hplain'
    fun k hk => Cursor.exists_keyScalar (hscalar k hk)
  have hkeys : (Cursor.keyset keys).intoKeyset sort = .ok keys := if_pos hfields
  refine ⟨g, ?_, hbound⟩
  rw [ofPage_page, SeekPlan.ofCursor, SeekPlan.beyondCursor, hkeys, ok_bind, hg]

/-- With a cursor a filter that says nothing is forgotten: the rows are selected from the table
alone. So a page with a cursor is refused, and joined, as the page without it just when the filter
says something or is about columns only. -/
theorem source_page_cursor_iff {name text : String} {sort : SortOrder} {keys : List KeyField}
    {size : Nat} (hfound : c.catalog.find? name = some e) (hkeyed : e.keySet ≠ [])
    (hsize : c.policy.check size = .ok size) (hcursor : Cursor.decode text = .ok (.keyset keys))
    (hfields : keys.map KeyField.field = (sort.withKeySet e.keySet).map SortField.field)
    (hscalar : ∀ k ∈ keys, Cursor.IsScalar k.value)
    (hplain : ∀ s ∈ sort.withKeySet e.keySet, (c.scope e).IsPlain s.field)
    (f : Filter) (backward : Bool) :
    (f.isEmpty = true → PagedFetch.source (c.page name f sort (arguments backward size (some text)))
      = .ok (e.table, [], false)) ∧
    (PagedFetch.source (c.page name f sort (arguments backward size (some text)))
        = PagedFetch.source (c.page name f sort (arguments backward size none)) ↔
      f.isEmpty = false ∨ ∀ p ∈ f.entries, Filter.IsColumn e p) := by
  obtain ⟨g, hplan, hbound⟩ :=
    exists_ofPage_keyset (SortOrder.withKeySet_ne_nil hkeyed) hfields hscalar hplain size backward
  have htext : Page.cursor? (some text) = .ok (some (.keyset keys)) := by
    rw [Page.cursor?, hcursor]
  have hseek : PagedFetch.source (c.page name f sort (arguments backward size (some text)))
      = c.sourceOf e (f.merge g) := source_page hfound hkeyed hsize htext hplan
  have hstart : PagedFetch.source (c.page name f sort (arguments backward size none))
      = c.sourceOf e f := source_page hfound hkeyed hsize rfl (ofPage_page _ backward none)
  rw [hseek, hstart]
  cases hvoid : f.isEmpty with
  | false =>
    refine ⟨fun h => absurd h Bool.false_ne_true, ?_⟩
    rw [sourceOf_merge hvoid hbound]
    simp
  | true =>
    have hmerge : f.merge g = g := by
      rw [Filter.merge, hvoid]
      rfl
    rw [hmerge, sourceOf_isBound hbound]
    refine ⟨fun _ => rfl, ?_⟩
    rw [eq_comm, sourceOf_eq_table_iff hvoid]
    simp

/-- Tasks with sub-tasks: the inner join of the first page is missing after a cursor. -/
theorem source_page_cursor_iff_sub_tasks :
    let sub : Entity := ⟨"sub_task", "sub_tasks", none, ["id"], [⟨"id", .integer⟩], []⟩
    let task : Entity := ⟨"task", "tasks", none, ["id"], [⟨"id", .integer⟩],
      [⟨"subTasks", "sub_task", some "st", .inner, "id", "task_id"⟩]⟩
    let c : Compiler := ⟨⟨[task, sub]⟩, .empty, .standard⟩
    let f := Filter.onRelation "subTasks" .empty
    let cursor := Cursor.keyset [⟨"id", .int 1⟩]
    PagedFetch.source (c.page "task" f [] (arguments false 2 (some cursor.encode)))
        = .ok ("tasks", [], false) ∧
      PagedFetch.source (c.page "task" f [] (arguments false 2 (some cursor.encode)))
        ≠ PagedFetch.source (c.page "task" f [] (arguments false 2 none)) := by
  intro sub task c f cursor
  have hscalar : ∀ k ∈ [KeyField.mk "id" (.int 1)], Cursor.IsScalar k.value :=
    List.forall_mem_singleton.2 (show Json.FitsJson 1 from ⟨by decide, by decide⟩)
  have hreadable : cursor.Readable :=
    ⟨List.cons_ne_nil _ _, fun k hk => Cursor.isKey_of_isScalar (hscalar k hk) fun y hy => by
      obtain rfl := List.mem_singleton.1 hk
      cases hy⟩
  have hplain : ∀ s ∈ SortOrder.withKeySet [] task.keySet, (c.scope task).IsPlain s.field :=
    List.forall_mem_singleton.2 ⟨by decide, fun _ _ => Registry.empty_lookup? ..⟩
  obtain ⟨hvoid, hiff⟩ := source_page_cursor_iff
    (show c.catalog.find? "task" = some task from rfl) (List.cons_ne_nil _ _)
    (show c.policy.check 2 = .ok 2 from rfl) (Cursor.decode_encode hreadable) rfl hscalar hplain
    f false
  refine ⟨hvoid rfl, fun h => ?_⟩
  rcases hiff.1 h with hsays | hcolumns
  · cases hsays
  · exact absurd (hcolumns _ (List.mem_cons_self ..)).1 (by decide)

end Compiler
end RowQuery
