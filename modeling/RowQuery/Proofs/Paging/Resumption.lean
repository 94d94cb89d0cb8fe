import RowQuery.Proofs.Json.FloatText
import RowQuery.Proofs.Paging.Merging
import RowQuery.Proofs.Paging.Positions
/-!
Which cursors that are handed out can be used.

The cursor of an edge is a position where the page was planned by positions, and the values of the
sort fields of its row where it was sought. A position is a cursor only of an entity without a key
set. Values are read as values of the same fields: a float may be read as a neighbour of the one
that the row holds, but it is a float. So the filter beyond the row can be built again, unless the
row holds an array or an object in such a field, and what was said of the filter of the request was
said when the page was compiled.
-/

namespace RowQuery

open SortOrder

/-! ### Cursors of scalars -/

namespace Cursor

/-- A scalar is read as a scalar. -/
theorem exists_takes_of_isScalar {v : Json.Value} (h : IsScalar v) :
    ∃ w, IsScalar w ∧ w.depth = 0 ∧
      ∀ depth, Json.Takes (Json.Reader.value depth) (Json.Writer.compact v) w := by
  by_cases hfloat : ∃ x, v = .float x
  · obtain ⟨x, rfl⟩ := hfloat
    obtain ⟨y, hy⟩ := Json.exists_number_float x
    exact ⟨.float y, trivial, rfl, Json.takes_value_of_number hy⟩
  · obtain ⟨hdepth, hreads⟩ := isKey_of_isScalar h fun x hx => absurd ⟨x, hx⟩ hfloat
    exact ⟨v, h, hdepth, fun depth => Json.takes_value hreads (by omega)⟩

/-- Key fields of scalars are read as key fields of scalars under the same names. -/
theorem exists_keyReadsAs : ∀ {fields : List KeyField}, (∀ k ∈ fields, IsScalar k.value) →
    ∃ fields', List.Forall₂ KeyReadsAs fields fields' ∧ (∀ k ∈ fields', IsScalar k.value) ∧
      fields'.map KeyField.field = fields.map KeyField.field
  | [], _ => ⟨[], .nil, List.forall_mem_nil _, rfl⟩
  | k :: rest, h => by
    obtain ⟨w, hscalar, hdepth, htakes⟩ := exists_takes_of_isScalar (h k (List.mem_cons_self ..))
    obtain ⟨rest', hrest, hscalars, hnames⟩ :=
      exists_keyReadsAs fun k hk => h k (List.mem_cons_of_mem _ hk)
    exact ⟨⟨k.field, w⟩ :: rest', .cons ⟨rfl, plain?_of_depth hdepth true, htakes _⟩ hrest,
      List.forall_mem_cons.2 ⟨hscalar, hscalars⟩, congrArg (k.field :: ·) hnames⟩

/-- The cursor of a row that holds scalars in the sort fields is decoded as a cursor of scalars for
the same sort. -/
theorem exists_decode_ofRow {sort : SortOrder} {row : Json.Row} (hne : sort ≠ [])
    (h : ∀ f ∈ sort, IsScalar (valueAt row f.field)) :
    ∃ keys, decode (ofRow row sort).encode = .ok (.keyset keys) ∧
      (∀ k ∈ keys, IsScalar k.value) ∧ keys.map KeyField.field = sort.map SortField.field := by
  have hfields : ∀ k ∈ sort.map fun f => KeyField.mk f.field (valueAt row f.field),
      IsScalar k.value := List.forall_mem_map.2 h
  obtain ⟨keys, hreads, hscalars, hnames⟩ := exists_keyReadsAs hfields
  refine ⟨keys, decode_encode_of_readsAs (.keyset (by simpa using hne) hreads), hscalars, ?_⟩
  rw [hnames, List.map_map]
  rfl

end Cursor

/-! ### Filters -/

/-- A filter that says something is accepted if it is accepted together with another one. -/
theorem Scope.accepts_of_accepts_merge {x : Scope} {f g : Filter} (hf : f.isEmpty = false)
    (h : x.Accepts (f.merge g)) : x.Accepts f := by
  rw [Filter.merge, hf] at h
  cases hg : g.isEmpty with
  | true => rwa [hg] at h
  | false =>
    rw [hg] at h
    obtain ⟨c, hc⟩ := h
    simp only [Bool.false_eq_true, if_false, Scope.scope_allOf, Scoped.condition] at hc
    exact (Scoped.exists_trees_cons_iff.1 (Scoped.exists_tree_node_iff.1 ⟨c, hc⟩).1).1

/-- What is accepted within the rows beyond one cursor is accepted within those beyond another. -/
theorem Scope.accepts_merge_of_within {x : Scope} {f g : Filter} {beyond : Option Filter}
    (h : x.Accepts (PageRequest.within f beyond)) (hg : x.Accepts g) : x.Accepts (f.merge g) := by
  cases hf : f.isEmpty with
  | true =>
    rw [Filter.merge, hf]
    exact hg
  | false =>
    refine Scope.accepts_merge ?_ hg
    cases beyond with
    | none => exact h
    | some b => exact Scope.accepts_of_accepts_merge hf h

/-! ### Plans and edges -/

namespace SeekPlan

variable {sort : SortOrder} {page : Page} {p : SeekPlan}

/-- A plan has the sort and the size that it is made for, and starts from no position. -/
theorem parts_of_ofCursor {size : Nat} {backward : Bool} {cursor : Option Cursor}
    (h : ofCursor sort size backward cursor = .ok p) :
    p.sort = sort ∧ p.size = size ∧ ∀ k, cursor ≠ some (.position k) := by
  rcases cursor with _ | (k | fields)
  · cases h
    exact ⟨rfl, rfl, by simp⟩
  · cases h
  · rw [ofCursor] at h
    split at h
    · cases h
      exact ⟨rfl, rfl, by simp⟩
    · cases h

theorem sort_of_ofPage (h : ofPage sort page = .ok p) : p.sort = sort := by
  cases page with
  | forward | backward => exact (parts_of_ofCursor h).1
  | window => cases h

/-- The cursor of an edge is that of its row. -/
theorem cursor_of_mem_finish {rows : List Json.Value} {edge : Edge Json.Value}
    (h : edge ∈ (p.finish rows).edges) :
    edge.cursor = (Cursor.ofRow (edge.node.members?.getD []) p.sort).encode := by
  have hedge : ∃ row, p.edge row = edge := by
    rw [finish] at h
    split at h <;> obtain ⟨row, -, hrow⟩ := List.mem_map.1 h <;> exact ⟨row, hrow⟩
  obtain ⟨row, rfl⟩ := hedge
  rfl

end SeekPlan

/-- The cursor of an edge is a position. -/
theorem WindowPlan.exists_decode_of_mem_edgesFrom {rows : List Json.Value} {position : Nat}
    {edge : Edge Json.Value} (h : edge ∈ edgesFrom position rows) :
    ∃ index, Cursor.decode edge.cursor = .ok (.position index) := by
  induction rows generalizing position with
  | nil => cases h
  | cons row rest ih =>
    rcases List.mem_cons.1 h with rfl | h
    · refine ⟨position % (Json.maxUInt64 + 1), Cursor.decode_encode (c := .position _) ?_⟩
      exact Nat.le_of_lt_succ (Nat.mod_lt _ (Nat.succ_pos _))
    · exact ih h

/-- Only limit and offset ask for a window. -/
theorem Page.isWindow_of_ofArguments {a : PagingArguments} {policy : PagingPolicy} {page : Page}
    (h : Page.ofArguments a policy = .ok page) : page.isWindow = a.usesOffset := by
  obtain ⟨-, -, -, cursor, -, rfl⟩ := PagingArguments.ofArguments_eq_ok_iff.1 h
  change _ = a.uses .window
  unfold PagingArguments.style
  split
  · next hwindow => exact hwindow.symm
  · next hwindow =>
    rw [Bool.eq_false_iff.2 hwindow]
    split <;> rfl

namespace Compiler

variable {c : Compiler} {e : Entity} {f g : Filter} {sort order : SortOrder} {page : Page}
  {plan : PagePlan}

/-- A plan by positions leaves the filter as it is. -/
theorem window_of_plan (h : Compiler.plan e f sort page = .ok (plan, g, order))
    (hstyle : e.keySet = [] ∨ page.isWindow = true) : (∃ p, plan = .window p) ∧ g = f := by
  rw [PageRequest.plan_eq_map_window hstyle] at h
  obtain ⟨p, -, h⟩ := map_eq_ok.1 h
  cases h
  exact ⟨⟨p, rfl⟩, rfl⟩

/-- A seek looks within the rows beyond its cursor. -/
theorem seek_of_plan (h : Compiler.plan e f sort page = .ok (plan, g, order))
    (hkeyed : e.keySet ≠ []) (hpage : page.isWindow = false) :
    ∃ p, plan = .seek p ∧ p.sort = sort.withKeySet e.keySet ∧
      g = PageRequest.within f p.beyond := by
  rw [PageRequest.plan_eq_map_seek hkeyed hpage] at h
  obtain ⟨p, hp, h⟩ := map_eq_ok.1 h
  cases h
  exact ⟨p, rfl, SeekPlan.sort_of_ofPage hp, rfl⟩

/-- What is planned is compiled if the filter is accepted. -/
theorem exists_page {name : String} {a : PagingArguments} (hfound : c.catalog.find? name = some e)
    (hpage : Page.ofArguments a c.policy = .ok page)
    (hplan : Compiler.plan e f sort page = .ok (plan, g, order)) (hg : (c.scope e).Accepts g) :
    ∃ q, c.page name f sort a = .ok q := by
  obtain ⟨rows, hrows⟩ := PageRequest.exists_rows hg
  have hselect : c.select e g order (some plan.fetchLimit) plan.fetchOffset
      = .ok ⟨e.name, g, rows, order, some plan.fetchLimit, plan.fetchOffset⟩ :=
    bind_eq_ok.2 ⟨rows, hrows, rfl⟩
  exact ⟨_, bind_eq_ok.2 ⟨e, entity_eq_ok.2 hfound, bind_eq_ok.2 ⟨page, hpage,
    bind_eq_ok.2 ⟨_, hplan, bind_eq_ok.2 ⟨_, hselect, rfl⟩⟩⟩⟩⟩

end Compiler

/-- A page that is answered is made by a compiled plan, whether or not the rows are counted. -/
theorem Service.parts_of_connection {s : Service} {r : PageRequest} {page : Connection Json.Value}
    (h : s.connection r = .ok page) :
    ∃ q rows, s.compiler.page r.entity r.filter r.sort r.paging = .ok q ∧
      page.edges = (q.plan.finish rows).edges := by
  obtain ⟨q, hq, h⟩ := bind_eq_ok.1 h
  obtain ⟨rows, -, h⟩ := bind_eq_ok.1 h
  refine ⟨q, rows, mapError_eq_ok.1 hq, ?_⟩
  dsimp only at h
  split at h
  · obtain ⟨total, -, h⟩ := bind_eq_ok.1 h
    cases h
    rfl
  · cases h
    rfl

/-- The page of a request without a filter: a window of all rows of the entity. -/
theorem Service.connection_of_empty {s : Service} {r : PageRequest} {e : Entity} {page : Page}
    {plan : PagePlan} {order : SortOrder} {rows : List Json.Row}
    (hfound : s.compiler.catalog.find? r.entity = some e)
    (hstore : s.store.catalog.find? e.name = some e) (hcount : r.totalCount = false)
    (hpage : Page.ofArguments r.paging s.compiler.policy = .ok page)
    (hplan : Compiler.plan e r.filter r.sort page = .ok (plan, .empty, order))
    (horder : order.arrange? .eight (s.store.table e.name) = some rows) :
    s.connection r = .ok (plan.finish
      ((Store.window (some plan.fetchLimit) plan.fetchOffset rows).map .obj)) := by
  have hselect : s.compiler.select e .empty order (some plan.fetchLimit) plan.fetchOffset
      = .ok ⟨e.name, .empty, ⟨e.table, e.tableAlias, [], none⟩, order, some plan.fetchLimit,
        plan.fetchOffset⟩ := bind_eq_ok.2 ⟨_, Compiler.rows_empty .., rfl⟩
  have hcompiled : s.compiler.page r.entity r.filter r.sort r.paging = .ok ⟨_, plan⟩ :=
    bind_eq_ok.2 ⟨e, Compiler.entity_eq_ok.2 hfound, bind_eq_ok.2 ⟨page, hpage,
      bind_eq_ok.2 ⟨_, hplan, bind_eq_ok.2 ⟨_, hselect, rfl⟩⟩⟩⟩
  have hordered : Store.ordered (order.arrange? .eight (s.store.table e.name)) = .ok rows := by
    rw [horder]
    rfl
  refine bind_eq_ok.2 ⟨_, mapError_eq_ok.2 hcompiled, bind_eq_ok.2 ⟨_, mapError_eq_ok.2
    (bind_eq_ok.2 ⟨_, mapError_eq_ok.2 (Store.matching_empty hstore),
      bind_eq_ok.2 ⟨rows, hordered, rfl⟩⟩), ?_⟩⟩
  rw [hcount]
  rfl

namespace PageRequest

variable {s : Service} {r : PageRequest} {c : Compiler} {e : Entity} {text : String}

/-! ### Cursors that are accepted -/

/-- With a cursor a request goes on: pages of every size that the policy allows are compiled, after
the cursor and before it. -/
def GoesOn (r : PageRequest) (c : Compiler) (cursor : String) : Prop :=
  ∀ size, c.policy.check size = .ok size → ∀ backward : Bool,
    ∃ q, c.page r.entity r.filter r.sort (arguments backward size (some cursor)) = .ok q

theorem goesOn_of_position (hfound : c.catalog.find? r.entity = some e) (hkeys : e.keySet = [])
    (hf : (c.scope e).Accepts r.filter) {index : Nat}
    (htext : Cursor.decode text = .ok (.position index)) : r.GoesOn c text := by
  intro size hsize backward
  have hplan : ∃ plan, WindowPlan.ofPage (page backward size (some (.position index)))
      = .ok plan := by
    cases backward <;> exact ⟨_, rfl⟩
  obtain ⟨plan, hplan⟩ := hplan
  exact Compiler.exists_page hfound (ofArguments_of_decode hsize htext backward)
    (plan_of_keySet_eq_nil hkeys hplan) hf

theorem goesOn_of_keyset (hfound : c.catalog.find? r.entity = some e) (hkeyed : e.keySet ≠ [])
    {beyond : Option Filter} (hf : (c.scope e).Accepts (within r.filter beyond))
    (hplain : ∀ f ∈ r.order e, (c.scope e).IsPlain f.field) {keys : List KeyField}
    (hscalar : ∀ k ∈ keys, Cursor.IsScalar k.value)
    (hnames : keys.map KeyField.field = (r.order e).map SortField.field)
    (htext : Cursor.decode text = .ok (.keyset keys)) : r.GoesOn c text := by
  intro size hsize backward
  obtain ⟨g, hplan, hbound⟩ := Compiler.exists_ofPage_keyset
    (SortOrder.withKeySet_ne_nil hkeyed) hnames hscalar hplain size backward
  exact Compiler.exists_page hfound (ofArguments_of_decode hsize htext backward)
    (plan_eq_seek hkeyed hplan) (Scope.accepts_merge_of_within hf hbound.accepts)

/-- Every cursor of a page that is answered can be used, after the cursor and before it: if the
entity has no key set; and if it has one, unless the page was asked for by limit and offset, or a
field of the sort is no plain column or holds an array or an object in the row of the cursor. -/
theorem connection_cursors_go_on {page : Connection Json.Value}
    (hfound : s.compiler.catalog.find? r.entity = some e) (hpage : s.connection r = .ok page)
    (hstyle : e.keySet = [] ∨ r.paging.usesOffset = false)
    (hplain : e.keySet ≠ [] → ∀ f ∈ r.order e, (s.compiler.scope e).IsPlain f.field)
    {edge : Edge Json.Value} (hedge : edge ∈ page.edges)
    (hscalar : e.keySet ≠ [] → ∀ row, edge.node = .obj row →
      ∀ f ∈ r.order e, Cursor.IsScalar (valueAt row f.field)) :
    r.GoesOn s.compiler edge.cursor := by
  obtain ⟨q, rows, hq, hedges⟩ := Service.parts_of_connection hpage
  obtain ⟨e', page', statement, order, he', harguments, hplan, hrows, -⟩ :=
    Compiler.parts_of_page hq
  obtain rfl := Option.some.inj (hfound.symm.trans he')
  obtain ⟨condition, hcondition, -⟩ := Compiler.rows_eq_ok.1 hrows
  have haccepts : (s.compiler.scope e).Accepts q.fetch.filter := ⟨condition, hcondition⟩
  rw [hedges] at hedge
  by_cases hkeys : e.keySet = []
  · obtain ⟨⟨p, hp⟩, hfilter⟩ := Compiler.window_of_plan hplan (.inl hkeys)
    rw [hp] at hedge
    obtain ⟨index, hindex⟩ := WindowPlan.exists_decode_of_mem_edgesFrom hedge
    exact goesOn_of_position hfound hkeys (hfilter ▸ haccepts) hindex
  · have hwindow : page'.isWindow = false :=
      (Page.isWindow_of_ofArguments harguments).trans (hstyle.resolve_left hkeys)
    obtain ⟨p, hp, hsort, hfilter⟩ := Compiler.seek_of_plan hplan hkeys hwindow
    rw [hp] at hedge
    have hscalars : ∀ f ∈ r.order e,
        Cursor.IsScalar (valueAt (edge.node.members?.getD []) f.field) := by
      intro f hf
      cases hnode : edge.node with
      | obj row => exact hscalar hkeys row hnode f hf
      | null | bool | num | str | arr => trivial
    obtain ⟨keys, hdecode, hkeyscalars, hnames⟩ :=
      Cursor.exists_decode_ofRow (SortOrder.withKeySet_ne_nil hkeys) hscalars
    rw [SeekPlan.cursor_of_mem_finish hedge, hsort]
    exact goesOn_of_keyset hfound hkeys (hfilter ▸ haccepts) (hplain hkeys) hkeyscalars hnames
      hdecode

/-- Tasks by a score that one of them lacks. -/
theorem connection_cursors_go_on_scores :
    let e : Entity := ⟨"task", "tasks", none, ["id"], [⟨"id", .integer⟩, ⟨"score", .float⟩], []⟩
    let c : Compiler := ⟨⟨[e]⟩, .empty, .standard⟩
    let scored : Json.Row := [("id", .int 1), ("score", .float Cursor.threeHalves)]
    let s := c.over [("task", [[("id", .int 2)], scored])]
    let r : PageRequest := ⟨"task", .empty, [.asc "score"], .ofFirst 2, false⟩
    ∃ page, s.connection r = .ok page ∧ page.nodes = [.obj scored, .obj [("id", .int 2)]] ∧
      ∀ edge ∈ page.edges, r.GoesOn s.compiler edge.cursor := by
  intro e c scored s r
  have hfound : c.catalog.find? "task" = some e := rfl
  have horder : SortOrder.arrange? .eight (r.order e) (s.store.table "task")
      = some [scored, [("id", .int 2)]] := rfl
  have hpage : s.connection r = .ok _ := Service.connection_of_empty hfound hfound rfl
    (ofArguments_of_none rfl false) rfl horder
  have hscalar : ∀ row ∈ [scored, [("id", .int 2)]], ∀ f ∈ r.order e,
      Cursor.IsScalar (valueAt row f.field) := by
    rw [show r.order e = [.asc "score", .asc "id"] from rfl]
    simp only [List.forall_mem_cons, List.not_mem_nil, false_imp_iff, implies_true, and_true]
    exact ⟨⟨trivial, by decide, by decide⟩, trivial, by decide, by decide⟩
  refine ⟨_, hpage, rfl, fun edge hedge => ?_⟩
  refine connection_cursors_go_on hfound hpage (.inr rfl)
    (fun _ f _ => Scope.isPlain_of_empty rfl f.field) hedge fun _ row hrow => ?_
  have hnode : edge.node ∈ [scored, [("id", .int 2)]].map Json.Value.obj :=
    List.mem_map_of_mem hedge
  obtain ⟨shown, hshown, hobj⟩ := List.mem_map.1 hnode
  obtain rfl := Json.Value.obj.inj (hobj.trans hrow)
  exact hscalar shown hshown

/-! ### Cursors that are refused -/

section
variable {name : String} {f : Filter} {sort : SortOrder} {size : Nat} {cursor : Cursor}
  {backward : Bool} (hfound : c.catalog.find? name = some e) (hkeyed : e.keySet ≠ [])
  (hsize : c.policy.check size = .ok size) (htext : Cursor.decode text = .ok cursor)
include hfound hkeyed hsize htext

/-- What is wrong with a cursor is found before the filter is looked at. -/
theorem page_eq_error_of_beyondCursor {fault : CursorFault}
    (hbeyond : SeekPlan.beyondCursor (sort.withKeySet e.keySet) backward cursor = .error fault) :
    c.page name f sort (arguments backward size (some text)) = .error (.cursor fault) := by
  have hplan : Compiler.plan e f sort (page backward size (some cursor))
      = .error (.cursor fault) := by
    rw [plan_eq_map_seek hkeyed (isWindow_page ..), ofPage_page, SeekPlan.ofCursor, hbeyond]
    rfl
  rw [Compiler.page, Compiler.entity_eq_ok.2 hfound, ok_bind,
    ofArguments_of_decode hsize htext backward, ok_bind, hplan]
  rfl

/-- A page is refused if the filter with that of the rows beyond the cursor is. -/
theorem page_eq_error_of_rows {p : SeekPlan} {err : QueryError}
    (hplan : SeekPlan.ofPage (sort.withKeySet e.keySet) (page backward size (some cursor)) = .ok p)
    (hrows : c.rows e (within f p.beyond) = .error err) :
    c.page name f sort (arguments backward size (some text)) = .error err := by
  rw [Compiler.page, Compiler.entity_eq_ok.2 hfound, ok_bind,
    ofArguments_of_decode hsize htext backward, ok_bind, plan_eq_seek hkeyed hplan, ok_bind]
  simp only [Compiler.select, hrows]
  rfl

end

/-- No cursor of a page by limit and offset can be used if the entity has a key set. -/
theorem page_eq_error_of_usesOffset {size : Nat} {page : Connection Json.Value}
    (hfound : s.compiler.catalog.find? r.entity = some e) (hkeyed : e.keySet ≠ [])
    (hsize : s.compiler.policy.check size = .ok size) (hpage : s.connection r = .ok page)
    (hoffset : r.paging.usesOffset = true) {edge : Edge Json.Value} (hedge : edge ∈ page.edges)
    (backward : Bool) :
    s.compiler.page r.entity r.filter r.sort (arguments backward size (some edge.cursor))
      = .error (.cursor .positionGiven) := by
  obtain ⟨q, rows, hq, hedges⟩ := Service.parts_of_connection hpage
  obtain ⟨e', page', statement, order, he', harguments, hplan, -, -⟩ := Compiler.parts_of_page hq
  obtain rfl := Option.some.inj (hfound.symm.trans he')
  have hwindow : page'.isWindow = true :=
    (Page.isWindow_of_ofArguments harguments).trans hoffset
  obtain ⟨⟨p, hp⟩, -⟩ := Compiler.window_of_plan hplan (.inr hwindow)
  rw [hedges, hp] at hedge
  obtain ⟨index, hindex⟩ := WindowPlan.exists_decode_of_mem_edgesFrom hedge
  exact page_eq_error_of_beyondCursor hfound hkeyed hsize hindex rfl

/-- A page is answered, and one of its cursors is refused: one row after it is not compiled. -/
def RefusesCursor (s : Service) (r : PageRequest) (err : QueryError) : Prop :=
  ∃ page, s.connection r = .ok page ∧ ∃ edge ∈ page.edges,
    s.compiler.page r.entity r.filter r.sort (arguments false 1 (some edge.cursor)) = .error err

/-- Cursors that are refused: a position where the entity has a key set, an array in a field of the
sort, and a value of a key field that names a relation. -/
theorem connection_cursor_refused :
    let e : Entity := ⟨"task", "tasks", none, ["id"], [⟨"id", .integer⟩], []⟩
    let linked : Entity := { e with relations := [⟨"id", "task", none, .left, "id", "id"⟩] }
    let tagged : Json.Row := [("id", .int 1), ("tags", .arr [.str "a"])]
    let tables : Dict (List Json.Row) := [("task", [tagged, [("id", .int 2)]])]
    let s := fun e => Compiler.over ⟨⟨[e]⟩, .empty, .standard⟩ tables
    RefusesCursor (s e) ⟨"task", .empty, [], .ofLimit 1 0, false⟩ (.cursor .positionGiven) ∧
      RefusesCursor (s e) ⟨"task", .empty, [.asc "tags"], .ofFirst 1, false⟩
        (.cursor (.notScalar "tags")) ∧
      RefusesCursor (s linked) ⟨"task", .empty, [], .ofFirst 1, false⟩
        (.invalidValue "id" "relation" .noFilter) := by
  intro e linked tagged tables s
  have hfound : (s e).compiler.catalog.find? "task" = some e := rfl
  have hkeyed : e.keySet ≠ [] := List.cons_ne_nil _ _
  have hsize : PagingPolicy.standard.check 1 = .ok 1 := rfl
  have hfirst : Page.ofArguments (.ofFirst 1) .standard = .ok (.forward 1 none) :=
    ofArguments_of_none hsize false
  have hid : Cursor.KeyReadsAs ⟨"id", .int 1⟩ ⟨"id", .int 1⟩ :=
    .of_readsBack rfl (Json.readsBack_int ⟨by decide, by decide⟩) (Nat.zero_le _)
  have hbyId : SortOrder.arrange? .eight [.asc "id"] ((s e).store.table "task")
      = some [tagged, [("id", .int 2)]] := rfl
  refine ⟨?position, ?array, ?relation⟩
  case position =>
    have hpage : (s e).connection ⟨"task", .empty, [], .ofLimit 1 0, false⟩ = .ok _ :=
      Service.connection_of_empty hfound hfound rfl (ofArguments_ofLimit hsize 0)
        (plan_window ..) hbyId
    exact ⟨_, hpage, _, List.mem_cons_self .., page_eq_error_of_usesOffset hfound hkeyed hsize
      hpage rfl (List.mem_cons_self ..) false⟩
  case array =>
    have hbyTags : SortOrder.arrange? .eight [.asc "tags", .asc "id"] ((s e).store.table "task")
        = some [tagged, [("id", .int 2)]] := rfl
    have hpage : (s e).connection ⟨"task", .empty, [.asc "tags"], .ofFirst 1, false⟩ = .ok _ :=
      Service.connection_of_empty hfound hfound rfl hfirst rfl hbyTags
    have htags : Cursor.KeyReadsAs ⟨"tags", .arr [.str "a"]⟩ ⟨"tags", .arr [.str "a"]⟩ :=
      .of_readsBack rfl ⟨trivial, trivial⟩ (by decide)
    have hdecode := Cursor.decode_encode_of_readsAs
      (.keyset (List.cons_ne_nil _ _) (.cons htags (.cons hid .nil)))
    exact ⟨_, hpage, _, List.mem_cons_self ..,
      page_eq_error_of_beyondCursor hfound hkeyed hsize hdecode rfl⟩
  case relation =>
    have hlinked : (s linked).compiler.catalog.find? "task" = some linked := rfl
    have hpage : (s linked).connection ⟨"task", .empty, [], .ofFirst 1, false⟩ = .ok _ :=
      Service.connection_of_empty hlinked hlinked rfl hfirst rfl hbyId
    have hdecode := Cursor.decode_encode_of_readsAs
      (.keyset (List.cons_ne_nil _ _) (.cons hid .nil))
    let beyond : Filter := .node [] [] [("id", .comparison [("gt", .int 1), ("is", .null)])]
    have hscope := Scope.scope_noFilter (show linked.relation? "id" = some _ from rfl) hlinked
      (show (Entry.comparison [("gt", .int 1), ("is", .null)]).filter? = none from rfl)
    have hrows : (s linked).compiler.rows linked beyond
        = .error (.invalidValue "id" "relation" .noFilter) := by
      rw [Compiler.rows, show beyond.scope (s linked).compiler.catalog linked = _ from hscope]
      rfl
    exact ⟨_, hpage, _, List.mem_cons_self ..,
      page_eq_error_of_rows hlinked hkeyed hsize hdecode rfl hrows⟩

end PageRequest
end RowQuery
