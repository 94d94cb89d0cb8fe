import RowQuery.Proofs.Filter.Agreement
import RowQuery.Proofs.Paging.Cursor
import RowQuery.Proofs.Paging.Seek
import RowQuery.Proofs.SortOrder.KeySet
import RowQuery.Proofs.Store
import RowQuery.Service
/-!
Pages of an entity with a key set.

A sort that is followed by the key set tells any two rows of a table apart, so the rows that a page
starts from and the page itself are parts of one list: the matching rows in the order of the sort,
or of the reversed sort for a page from the end. The page is the beginning of what lies beyond the
cursor there.
-/

namespace RowQuery

open SortOrder

/-! ### Requests -/

/-- A service whose store has the catalog and the handlers of the compiler. -/
def Compiler.over (c : Compiler) (tables : Dict (List Json.Row)) : Service :=
  ⟨c, ⟨c.catalog, c.registry, tables⟩⟩

/-- What the filters of requests for an entity are resolved against. -/
def Compiler.scope (c : Compiler) (e : Entity) : Scope := ⟨c.catalog, c.registry, e⟩

namespace PageRequest

/-- The sort of the pages: that of the request, followed by the key set. -/
def order (r : PageRequest) (e : Entity) : SortOrder := r.sort.withKeySet e.keySet

/-- The rows of an entity that satisfy the filter of a request. -/
def matching (r : PageRequest) (c : Compiler) (e : Entity) (rows : List Json.Row) :
    List Json.Row :=
  rows.filter ((c.scope e).verdict r.filter)

/-- Requests for pages of some size that are compiled to seeks by the key set of an entity. -/
structure Compiles (r : PageRequest) (c : Compiler) (e : Entity) (size : Nat) : Prop where
  found : c.catalog.find? r.entity = some e
  keyed : e.keySet ≠ []
  accepted : (c.scope e).Accepts r.filter
  allowed : c.policy.check size = .ok size
  fits : (size : Int) ≤ Json.maxInt64

/-- Requests for pages that are sought with the built-in operators, and whose filter has no pattern
that is too large to be matched. -/
structure Seeks (r : PageRequest) (c : Compiler) (e : Entity) (size : Nat) : Prop extends
    r.Compiles c e size where
  builtIn : c.registry.HoldsBuiltIn
  inRange : (r.filter.scope c.catalog e).InRange e.tableAlias
  patternsFit : (r.filter.scope c.catalog e).PatternsFit c.registry e.tableAlias
  plain : ∀ s ∈ r.order e, (c.scope e).IsPlain s.field

variable {r : PageRequest} {c : Compiler} {e : Entity} {size : Nat}

theorem Compiles.order_ne_nil (h : r.Compiles c e size) : r.order e ≠ [] :=
  withKeySet_ne_nil h.keyed

theorem Compiles.name_eq (h : r.Compiles c e size) : e.name = r.entity :=
  (Catalog.mem_of_find? h.found).2

theorem Compiles.entity_eq (h : r.Compiles c e size) : c.entity r.entity = .ok e := by
  rw [Compiler.entity, h.found]

theorem Compiles.fetchLimit_eq (h : r.Compiles c e size) :
    min (size + 1) Json.maxUInt64 = size + 1 := by
  have hmax : Json.maxInt64 = 2 ^ 63 - 1 := rfl
  have hmax' : Json.maxUInt64 = 2 ^ 64 - 1 := rfl
  have := h.fits
  omega

/-- The filter of a request is judged on every row. -/
theorem Seeks.decides (h : r.Seeks c e size) (row : Json.Row) :
    (c.scope e).Decides r.filter row := by
  obtain ⟨condition, hcondition⟩ := h.accepted
  obtain ⟨b, hb⟩ := Scoped.holds_of_condition h.builtIn h.inRange h.patternsFit hcondition row
  exact Scope.Judges.decides hb

/-! ### The plan of a page -/

/-- The arguments for a page after a cursor, or before it if the page is taken from the end. -/
def arguments (backward : Bool) (size : Nat) (cursor : Option String) : PagingArguments :=
  if backward then { PagingArguments.ofLast size with before := cursor }
  else { PagingArguments.ofFirst size with after := cursor }

/-- The page that the arguments ask for. -/
def page (backward : Bool) (size : Nat) (cursor : Option Cursor) : Page :=
  if backward then .backward size cursor else .forward size cursor

theorem isWindow_page (backward : Bool) (size : Nat) (cursor : Option Cursor) :
    (page backward size cursor).isWindow = false := by
  cases backward <;> rfl

theorem ofArguments_arguments {policy : PagingPolicy} {text : Option String}
    {cursor : Option Cursor} (hsize : policy.check size = .ok size)
    (htext : Page.cursor? text = .ok cursor) (backward : Bool) :
    Page.ofArguments (arguments backward size text) policy = .ok (page backward size cursor) := by
  cases backward <;> cases text <;>
    simp [arguments, page, Page.ofArguments, PagingArguments.mixture?, PagingArguments.usesOffset,
      PagingArguments.usesCursor, PagingArguments.ofFirst, PagingArguments.ofLast,
      PagingArguments.none, Page.ofStyle, Page.count_natCast, htext, hsize, ok_bind]

theorem ofArguments_of_none {policy : PagingPolicy} (hsize : policy.check size = .ok size)
    (backward : Bool) :
    Page.ofArguments (arguments backward size none) policy = .ok (page backward size none) :=
  ofArguments_arguments hsize rfl backward

theorem ofArguments_of_decode {policy : PagingPolicy} {text : String} {cursor : Cursor}
    (hsize : policy.check size = .ok size) (htext : Cursor.decode text = .ok cursor)
    (backward : Bool) :
    Page.ofArguments (arguments backward size (some text)) policy
      = .ok (page backward size (some cursor)) :=
  ofArguments_arguments hsize (by rw [Page.cursor?, htext]) backward

/-- A filter with that of the rows beyond a cursor. -/
def within (f : Filter) : Option Filter → Filter
  | none => f
  | some beyond => f.merge beyond

theorem exists_rows {f : Filter} (hf : (c.scope e).Accepts f) :
    ∃ rows, c.rows e f = .ok rows := by
  obtain ⟨condition, hcondition⟩ := hf
  have hcondition : (f.scope c.catalog e).condition c.registry e.tableAlias = .ok condition :=
    hcondition
  simp only [Compiler.rows, hcondition, ok_bind]
  exact ⟨_, rfl⟩

section
variable {backward given : Bool} {cursor : Option Cursor} {beyond : Option Filter}

/-- Pages of an entity with a key set are sought, unless a window is asked for. -/
theorem plan_eq_map_seek {f : Filter} {sort : SortOrder} {page : Page} (hkeyed : e.keySet ≠ [])
    (hpage : page.isWindow = false) :
    Compiler.plan e f sort page = (SeekPlan.ofPage (sort.withKeySet e.keySet) page).map
      fun p => (.seek p, within f p.beyond, p.querySort) := by
  have hseeks : (e.hasKeySet && !page.isWindow) = true := by
    simp [Entity.hasKeySet, hkeyed, hpage]
  simp only [Compiler.plan, hseeks, if_true]
  cases SeekPlan.ofPage (sort.withKeySet e.keySet) page <;> rfl

theorem plan_eq_seek {f : Filter} {sort : SortOrder} {p : SeekPlan} (hkeyed : e.keySet ≠ [])
    (hplan : SeekPlan.ofPage (sort.withKeySet e.keySet) (page backward size cursor) = .ok p) :
    Compiler.plan e f sort (page backward size cursor)
      = .ok (.seek p, within f p.beyond, p.querySort) := by
  rw [plan_eq_map_seek hkeyed (isWindow_page ..), hplan]
  rfl

theorem Compiles.plan_eq (h : r.Compiles c e size)
    (hplan : SeekPlan.ofPage (r.order e) (page backward size cursor)
      = .ok ⟨r.order e, size, backward, given, beyond⟩) :
    Compiler.plan e r.filter r.sort (page backward size cursor)
      = .ok (.seek ⟨r.order e, size, backward, given, beyond⟩, within r.filter beyond,
          SeekPlan.querySortOf backward (r.order e)) :=
  plan_eq_seek h.keyed hplan

/-- A page is compiled to a seek that fetches one row more than the page has. -/
theorem Compiles.page_eq (h : r.Compiles c e size) {text : Option String}
    (hcursor : Page.cursor? text = .ok cursor)
    (hplan : SeekPlan.ofPage (r.order e) (page backward size cursor)
      = .ok ⟨r.order e, size, backward, given, beyond⟩)
    (hf : (c.scope e).Accepts (within r.filter beyond)) :
    ∃ rows, c.page r.entity r.filter r.sort (arguments backward size text)
      = .ok ⟨⟨e.name, within r.filter beyond,
          ⟨rows, SeekPlan.querySortOf backward (r.order e), some (size + 1), 0⟩⟩,
          .seek ⟨r.order e, size, backward, given, beyond⟩⟩ := by
  obtain ⟨rows, hrows⟩ := exists_rows hf
  refine ⟨rows, ?_⟩
  rw [Compiler.page, h.entity_eq, ok_bind, ofArguments_arguments h.allowed hcursor, ok_bind,
    h.plan_eq hplan, ok_bind]
  simp only [Compiler.select, hrows, ok_bind, PagePlan.fetchLimit, SeekPlan.fetchLimit,
    h.fetchLimit_eq, PagePlan.fetchOffset]
  rfl

end

/-! ### The filter of a page -/

/-- The text of the cursor of a row. -/
def cursorText (r : PageRequest) (e : Entity) (row : Json.Row) : String :=
  (Cursor.ofRow row (r.order e)).encode

/-- The row lies beyond the one that a page starts from, if it starts from one. -/
def isBeyond (sort : SortOrder) (start : Option Json.Row) (row : Json.Row) : Bool :=
  start.all fun s => decide (compareRows sort s row = .lt)

theorem keysOf_querySortOf (backward : Bool) (sort : SortOrder) (row : Json.Row) :
    Scope.keysOf row (SeekPlan.querySortOf backward sort) = Scope.keysOf row sort := by
  cases backward with
  | false => rfl
  | true => exact List.map_map ..

theorem hasKinds_querySortOf {backward : Bool} {sort : SortOrder} {rows : List Json.Row} :
    HasKinds (SeekPlan.querySortOf backward sort) rows ↔ HasKinds sort rows := by
  cases backward with
  | false => exact Iff.rfl
  | true => exact hasKinds_inverted

theorem querySortOf_ne_nil {backward : Bool} {sort : SortOrder} (h : sort ≠ []) :
    SeekPlan.querySortOf backward sort ≠ [] := by
  cases backward <;> simp [SeekPlan.querySortOf, SortOrder.inverted, h]

/-- Turned round or not, a sort goes by the same fields. -/
theorem exists_field_of_mem_querySortOf {backward : Bool} {sort : SortOrder} {s : SortField}
    (h : s ∈ SeekPlan.querySortOf backward sort) : ∃ t ∈ sort, t.field = s.field := by
  cases backward with
  | false => exact ⟨s, h, rfl⟩
  | true =>
    obtain ⟨t, ht, rfl⟩ := List.mem_map.1 h
    exact ⟨t, ht, rfl⟩

/-- The filter of the rows beyond a row is accepted, and selects them. -/
theorem Seeks.beyondCursor_spec (h : r.Seeks c e size) (backward : Bool) {start : Json.Row}
    (hk : HasKinds (r.order e) [start]) :
    ∃ f, SeekPlan.beyondCursor (r.order e) backward (.ofRow start (r.order e)) = .ok f ∧
      (c.scope e).Accepts f ∧ ∀ row, HasKinds (r.order e) [start, row] →
        (c.scope e).Judges f row
          (decide (compareRows (SeekPlan.querySortOf backward (r.order e)) start row = .lt)) := by
  have hplain : ∀ s ∈ SeekPlan.querySortOf backward (r.order e),
      (c.scope e).IsPlain s.field := by
    intro s hs
    obtain ⟨t, ht, hfield⟩ := exists_field_of_mem_querySortOf hs
    exact hfield ▸ h.plain t ht
  obtain ⟨f, hf, haccepts, hjudges⟩ := Scope.seek_spec (querySortOf_ne_nil h.order_ne_nil) hplain
    (hasKinds_querySortOf.2 hk)
  rw [keysOf_querySortOf] at hf
  have hkeys : (Cursor.ofRow start (r.order e)).intoKeyset (r.order e)
      = .ok (Scope.keysOf start (r.order e)) := by
    rw [Cursor.ofRow, Cursor.intoKeyset, List.map_map]
    exact if_pos rfl
  refine ⟨f, ?_, haccepts, fun row hrow => hjudges row (hasKinds_querySortOf.2 hrow)⟩
  rw [SeekPlan.beyondCursor, hkeys, ok_bind, hf]

theorem ofPage_page (sort : SortOrder) (backward : Bool) (cursor : Option Cursor) :
    SeekPlan.ofPage sort (page backward size cursor)
      = SeekPlan.ofCursor sort size backward cursor := by
  cases backward <;> rfl

/-- The plan of a page, and what its filter says of a row. -/
theorem Seeks.ofPage_spec (h : r.Seeks c e size) (backward : Bool) {start : Option Json.Row}
    (hk : HasKinds (r.order e) start.toList) :
    Page.cursor? (start.map (r.cursorText e)) = .ok (start.map (.ofRow · (r.order e))) ∧
      ∃ beyond, SeekPlan.ofPage (r.order e) (page backward size (start.map (.ofRow · (r.order e))))
          = .ok ⟨r.order e, size, backward, start.isSome, beyond⟩ ∧
        (c.scope e).Accepts (within r.filter beyond) ∧
        ∀ row, HasKinds (r.order e) (start.toList ++ [row]) →
          (c.scope e).Judges (within r.filter beyond) row ((c.scope e).verdict r.filter row
            && isBeyond (SeekPlan.querySortOf backward (r.order e)) start row) := by
  cases start with
  | none =>
    refine ⟨rfl, none, by cases backward <;> rfl, h.accepted, fun row _ => ?_⟩
    rw [isBeyond, Option.all_none, Bool.and_true]
    exact h.decides row
  | some s =>
    obtain ⟨f, hf, haccepts, hjudges⟩ := h.beyondCursor_spec backward hk
    refine ⟨?_, some f, ?_, Scope.accepts_merge h.accepted haccepts, fun row hrow => ?_⟩
    · rw [Option.map_some, Page.cursor?, cursorText,
        Cursor.decode_encode_ofRow h.order_ne_nil hk]
      rfl
    · simp only [ofPage_page, SeekPlan.ofCursor, Option.map_some, hf]
      rfl
    · exact Scope.judges_merge (h.decides row) (hjudges row hrow)

/-! ### Rows of a page -/

/-- A page of some rows in the order of the request. -/
def pageOf (r : PageRequest) (e : Entity) (rows : List Json.Row)
    (hasNextPage hasPreviousPage : Bool) (total : Nat) : Connection Json.Value :=
  { Connection.ofEdges (rows.map fun row => ⟨.obj row, r.cursorText e row⟩) hasNextPage
      hasPreviousPage with
    totalCount := if r.totalCount then some total else none }

/-- The rows beyond the one that a page starts from, in the order in which they are fetched. -/
def beyond (r : PageRequest) (c : Compiler) (e : Entity) (backward : Bool)
    (start : Option Json.Row) (rows : List Json.Row) : List Json.Row :=
  let sort := SeekPlan.querySortOf backward (r.order e)
  sortRows sort ((r.matching c e rows).filter (isBeyond sort start))

theorem Seeks.matching_eq (h : r.Seeks c e size) (tables : Dict (List Json.Row)) {f : Filter}
    {p : Json.Row → Bool}
    (hf : ∀ row ∈ (c.over tables).store.table e.name, (c.scope e).Judges f row (p row)) :
    (c.over tables).store.matching e.name f
      = .ok (((c.over tables).store.table e.name).filter p) := by
  have hfound : (c.over tables).store.catalog.find? e.name = some e := h.name_eq ▸ h.found
  simp only [Store.matching, hfound]
  exact Store.select_eq hf

/-- The rows that are fetched for a page: those beyond the start, one more than the page has. -/
theorem Seeks.fetch_eq (h : r.Seeks c e size) (backward : Bool) {start : Option Json.Row}
    {tables : Dict (List Json.Row)} {f : Filter} (rows : Sql.Rows) (limit : Nat)
    (hk : HasKinds (r.order e) (start.toList ++ (c.over tables).store.table e.name))
    (hf : ∀ row, HasKinds (r.order e) (start.toList ++ [row]) →
      (c.scope e).Judges f row ((c.scope e).verdict r.filter row
        && isBeyond (SeekPlan.querySortOf backward (r.order e)) start row)) :
    (c.over tables).store.fetch
        ⟨e.name, f, rows, SeekPlan.querySortOf backward (r.order e), some limit, 0⟩
      = .ok (((r.beyond c e backward start ((c.over tables).store.table e.name)).take limit).map
          .obj) := by
  have hmatching := h.matching_eq tables fun row hrow => hf row (hk.subset (by simp [hrow]))
  have hkinds : HasKinds (SeekPlan.querySortOf backward (r.order e))
      (((c.over tables).store.table e.name).filter fun row => (c.scope e).verdict r.filter row
        && isBeyond (SeekPlan.querySortOf backward (r.order e)) start row) := by
    refine hasKinds_querySortOf.2 (hk.subset fun row hrow => ?_)
    exact List.mem_append_right _ (List.mem_filter.1 hrow).1
  rw [Store.fetch, hmatching, Except.mapError, ok_bind]
  dsimp only
  rw [arrange?_of_hasKinds hkinds]
  simp only [Store.ordered, ok_bind, Store.window, List.drop_zero, beyond, matching,
    List.filter_filter, Bool.and_comm]
  rfl

theorem Seeks.count_eq (h : r.Seeks c e size) (tables : Dict (List Json.Row)) :
    (c.over tables).count r.entity r.filter
      = .ok (r.matching c e ((c.over tables).store.table e.name)).length := by
  obtain ⟨rows, hrows⟩ := exists_rows h.accepted
  have hmatching := h.matching_eq tables fun row _ => h.decides row
  have hcompiled : c.count r.entity r.filter
      = .ok ⟨e.name, r.filter, rows, Compiler.countedName, [.countAll], []⟩ := by
    rw [Compiler.count, h.entity_eq, ok_bind, hrows]
    rfl
  rw [Service.count, show (c.over tables).compiler = c from rfl, hcompiled, Service.compiled,
    Except.mapError, ok_bind, Store.count, hmatching]
  rfl

/-- A page is made of the rows that are fetched; one too many tells that there are more. -/
theorem finish_eq (r : PageRequest) (e : Entity) (size : Nat) (backward given : Bool)
    (beyond : Option Filter) (rows : List Json.Row) :
    SeekPlan.finish ⟨r.order e, size, backward, given, beyond⟩ ((rows.take (size + 1)).map .obj)
      = let edges := (rows.take size).map fun row => ⟨.obj row, r.cursorText e row⟩
        if backward then .ofEdges edges.reverse given (decide (size < rows.length))
        else .ofEdges edges (decide (size < rows.length)) given := by
  have hmore : decide (size < (rows.take (size + 1)).length) = decide (size < rows.length) := by
    rw [List.length_take, Bool.eq_iff_iff, decide_eq_true_eq, decide_eq_true_eq]
    omega
  have hedge : ∀ row, SeekPlan.edge ⟨r.order e, size, backward, given, beyond⟩ (.obj row)
      = ⟨.obj row, r.cursorText e row⟩ := fun _ => rfl
  simp only [SeekPlan.finish, List.length_map, hmore, ← List.map_take, List.take_take,
    Nat.min_eq_left (Nat.le_succ size), ← List.map_reverse, List.map_map, Function.comp_def,
    hedge]

/-- The page beyond a row, or without one from the end that it is taken from. -/
theorem Seeks.connection_eq (h : r.Seeks c e size) (backward : Bool) {start : Option Json.Row}
    {tables : Dict (List Json.Row)} {table rows : List Json.Row} {total : Nat}
    (htable : (c.over tables).store.table r.entity = table)
    (hrows : r.beyond c e backward start table = rows)
    (htotal : (r.matching c e table).length = total)
    (hk : HasKinds (r.order e) (start.toList ++ table)) :
    (c.over tables).connection
        { r with paging := arguments backward size (start.map (r.cursorText e)) }
      = .ok (if backward then
          r.pageOf e (rows.take size).reverse start.isSome (decide (size < rows.length)) total
        else r.pageOf e (rows.take size) (decide (size < rows.length)) start.isSome total) := by
  rw [← h.name_eq] at htable
  subst htable hrows htotal
  obtain ⟨hcursor, f, hplan, haccepts, hjudges⟩ :=
    h.ofPage_spec backward (hk.subset (List.subset_append_left ..))
  obtain ⟨statement, hcompiled⟩ := h.page_eq hcursor hplan haccepts
  have hfetch := h.fetch_eq backward statement (size + 1) hk hjudges
  have hfinish := finish_eq r e size backward start.isSome f
    (r.beyond c e backward start ((c.over tables).store.table e.name))
  rw [Service.connection, show (c.over tables).compiler = c from rfl]
  simp only [hcompiled, Service.compiled, Except.mapError, ok_bind, hfetch, Service.executed,
    PagePlan.finish]
  rw [hfinish, h.count_eq tables, ok_bind]
  cases hcounted : r.totalCount <;> cases backward <;>
    simp [pageOf, hcounted, pure_eq_ok, Connection.ofEdges]

/-- Where the filter is not judged on the first row, there is no page. -/
theorem Compiles.connection_eq_error (h : r.Compiles c e size) {tables : Dict (List Json.Row)}
    {row : Json.Row} {rest : List Json.Row} {cause : QueryError}
    (htable : (c.over tables).store.table r.entity = row :: rest)
    (hrow : (r.filter.scope c.catalog e).holds c.registry row = .error cause) :
    (c.over tables).connection { r with paging := arguments false size none }
      = .error (.execution (.filter r.entity cause)) := by
  obtain ⟨rows, hpage⟩ : ∃ rows, c.page r.entity r.filter r.sort (arguments false size none)
      = .ok ⟨⟨e.name, r.filter, ⟨rows, r.order e, some (size + 1), 0⟩⟩,
          .seek ⟨r.order e, size, false, false, none⟩⟩ :=
    h.page_eq rfl rfl (show (c.scope e).Accepts (within r.filter none) from h.accepted)
  have hmatching : (c.over tables).store.matching r.entity r.filter
      = .error (.filter r.entity cause) := by
    have hfound : (c.over tables).store.catalog.find? r.entity = some e := h.found
    have hrow : (r.filter.scope (c.over tables).store.catalog e).holds
        (c.over tables).store.registry row = .error cause := hrow
    simp only [Store.matching, hfound, htable, Store.select, hrow]
  rw [Service.connection, show (c.over tables).compiler = c from rfl]
  simp only [hpage, Service.compiled, Except.mapError, ok_bind, Store.fetch, h.name_eq, hmatching]
  rfl

/-- With a pattern that is too large a request is compiled, but there is no page over a text. -/
theorem compiles_and_connection_eq_error {name pattern text : String} {row : Json.Row}
    {rest : List Json.Row} {tables : Dict (List Json.Row)}
    (hfilter : r.filter = .onField name .like (.str pattern))
    (hfound : c.catalog.find? r.entity = some e) (hkeyed : e.keySet ≠ [])
    (hallowed : c.policy.check size = .ok size) (hfits : (size : Int) ≤ Json.maxInt64)
    (hname : e.relation? name = none)
    (hlookup : c.registry.lookup? "like" (e.columnType? name) (some (e.name, name)) = none)
    (htable : (c.over tables).store.table r.entity = row :: rest)
    (hfind : Dict.find? row name = some (.str text))
    (hlarge : Pattern.isTooLarge false (Pattern.items pattern.toList) = true) :
    r.Compiles c e size ∧
      (c.over tables).connection { r with paging := arguments false size none }
        = .error (.execution (.filter r.entity (.invalidValue name "like" .patternTooLarge))) := by
  obtain ⟨hcondition, hholds⟩ := Scoped.scope_onField_like_of_isTooLarge hname hlookup hfind hlarge
    c.catalog e.tableAlias
  rw [← hfilter] at hcondition hholds
  have hcompiles : r.Compiles c e size := ⟨hfound, hkeyed, ⟨_, hcondition⟩, hallowed, hfits⟩
  exact ⟨hcompiles, hcompiles.connection_eq_error htable hholds⟩

end PageRequest
end RowQuery
