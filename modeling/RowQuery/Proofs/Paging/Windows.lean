import RowQuery.Proofs.Paging.Keyset
/-!
Pages as windows of the matching rows.

All pages of a request are windows of one list, the matching rows in the order of the sort. A cursor
of a row cuts it behind the row for a page after it, and before the row for a page before it; a page
from the end is read off the reversed list and turned round.
-/

namespace RowQuery.PageRequest

open SortOrder

variable {r : PageRequest} {c : Compiler} {e : Entity} {size : Nat}

/-! ### Rows beyond a row of the list -/

section
variable {rows : List Json.Row}

/-- The matching rows in the order of the pages. -/
def listed (r : PageRequest) (c : Compiler) (e : Entity) (rows : List Json.Row) : List Json.Row :=
  sortRows (r.order e) (r.matching c e rows)

theorem perm_listed : (r.listed c e rows).Perm (r.matching c e rows) := perm_sortRows _ _

theorem hasKinds_matching (hk : HasKinds (r.order e) rows) :
    HasKinds (r.order e) (r.matching c e rows) :=
  hk.subset fun _ hrow => (List.mem_filter.1 hrow).1

theorem separates_matching (hd : e.Distinguishes rows) :
    Separates (r.order e) (r.matching c e rows) :=
  (hd.separates r.sort).filter _

variable (hk : HasKinds (r.order e) rows) (hd : e.Distinguishes rows)
include hk hd

theorem inOrder_listed : InOrder (r.order e) (r.listed c e rows) :=
  inOrder_sortRows (hasKinds_matching hk) (separates_matching hd)

/-- Fetching in the reversed sort reverses the list. -/
theorem beyond_eq (backward : Bool) (start : Option Json.Row) :
    r.beyond c e backward start rows =
      let items := (r.listed c e rows).filter
        (isBeyond (SeekPlan.querySortOf backward (r.order e)) start)
      if backward then items.reverse else items := by
  have hfilter := sortRows_filter (hasKinds_matching (c := c) hk) (separates_matching hd)
    (isBeyond (SeekPlan.querySortOf backward (r.order e)) start)
  cases backward with
  | false => exact hfilter
  | true =>
    rw [beyond, listed, ← hfilter]
    have hkinds := hasKinds_matching (c := c) hk
    refine sortRows_inverted (hkinds.subset ?_) ((separates_matching hd).filter _)
    exact fun row hrow => (List.mem_filter.1 hrow).1

theorem beyond_none (backward : Bool) :
    r.beyond c e backward none rows
      = if backward then (r.listed c e rows).reverse else r.listed c e rows := by
  have hall : (r.listed c e rows).filter
      (isBeyond (SeekPlan.querySortOf backward (r.order e)) none) = r.listed c e rows :=
    List.filter_eq_self.2 fun _ _ => rfl
  rw [beyond_eq hk hd, hall]

theorem beyond_after {k : Nat} (hlt : k < (r.listed c e rows).length) :
    r.beyond c e false (some (r.listed c e rows)[k]) rows = (r.listed c e rows).drop (k + 1) := by
  rw [beyond_eq hk hd]
  exact filter_after (inOrder_listed hk hd) hlt

theorem beyond_before {k : Nat} (hlt : k < (r.listed c e rows).length) :
    r.beyond c e true (some (r.listed c e rows)[k]) rows
      = ((r.listed c e rows).take k).reverse := by
  rw [beyond_eq hk hd]
  exact congrArg List.reverse (filter_before (inOrder_listed hk hd) hlt)

end

/-! ### The windows -/

theorem take_reverse_reverse {α : Type} (items : List α) (n : Nat) :
    (items.reverse.take n).reverse = items.drop (items.length - n) := by
  rw [List.take_reverse, List.reverse_reverse]

/-- Every page after a row, before a row, from the beginning and from the end is a window of one
list: the matching rows in the order of the sort with the key set. -/
theorem connection_eq_window (h : r.Seeks c e size) (tables : Dict (List Json.Row))
    (hd : e.Distinguishes ((c.over tables).store.table r.entity))
    (hk : HasKinds (r.order e) ((c.over tables).store.table r.entity)) :
    let ask a := (c.over tables).connection { r with paging := a }
    ∃ matching items : List Json.Row,
      (c.over tables).store.matching r.entity r.filter = .ok matching ∧ items.Perm matching ∧
      InOrder (r.order e) items ∧
      (∀ k, (hlt : k < items.length) →
        ask ((PagingArguments.ofFirst size).withAfter (r.cursorText e items[k]))
          = .ok (r.pageOf e ((items.drop (k + 1)).take size)
              (decide (k + 1 + size < items.length)) true items.length) ∧
        ask ((PagingArguments.ofLast size).withBefore (r.cursorText e items[k]))
          = .ok (r.pageOf e ((items.take k).drop (k - size)) true (decide (size < k))
              items.length)) ∧
      ask (.ofFirst size)
        = .ok (r.pageOf e (items.take size) (decide (size < items.length)) false items.length) ∧
      ask (.ofLast size)
        = .ok (r.pageOf e (items.drop (items.length - size)) false
            (decide (size < items.length)) items.length) := by
  intro ask
  obtain ⟨table, htable⟩ : ∃ table, (c.over tables).store.table r.entity = table := ⟨_, rfl⟩
  rw [htable] at hd hk
  have hmatching : (c.over tables).store.matching r.entity r.filter
      = .ok (r.matching c e table) := by
    rw [← htable, ← h.name_eq]
    exact h.matching_eq tables fun row _ => h.decides row
  have htotal : (r.matching c e table).length = (r.listed c e table).length :=
    perm_listed.length_eq.symm
  have hrow : ∀ k, (hlt : k < (r.listed c e table).length) →
      HasKinds (r.order e) ((some (r.listed c e table)[k]).toList ++ table) := by
    refine fun k hlt => hk.subset (List.cons_subset.2 ⟨?_, List.Subset.refl table⟩)
    exact (List.mem_filter.1 (perm_listed.subset (List.getElem_mem hlt))).1
  refine ⟨_, r.listed c e table, hmatching, perm_listed, inOrder_listed hk hd,
    fun k hlt => ⟨?_, ?_⟩, ?_, ?_⟩
  · have hpage := h.connection_eq false htable (beyond_after hk hd hlt) htotal (hrow k hlt)
    rw [if_neg Bool.false_ne_true, List.length_drop] at hpage
    rw [show decide (k + 1 + size < _) = decide (size < (r.listed c e table).length - (k + 1)) by
      rw [decide_eq_decide]; omega]
    exact hpage
  · have hpage := h.connection_eq true htable (beyond_before hk hd hlt) htotal (hrow k hlt)
    rw [if_pos rfl, take_reverse_reverse, List.length_reverse,
      List.length_take_of_le (Nat.le_of_lt hlt)] at hpage
    exact hpage
  · have hpage := h.connection_eq false htable (beyond_none hk hd false) htotal hk
    rw [if_neg Bool.false_ne_true, if_neg Bool.false_ne_true] at hpage
    exact hpage
  · have hpage := h.connection_eq true htable (beyond_none hk hd true) htotal hk
    rw [if_pos rfl, if_pos rfl, take_reverse_reverse, List.length_reverse] at hpage
    exact hpage

/-- The last task before one, of tasks by their titles in reverse. -/
theorem connection_eq_window_before :
    let e : Entity := ⟨"task", "tasks", none, ["id"], [⟨"id", .integer⟩, ⟨"title", .text⟩], []⟩
    let c : Compiler := ⟨⟨[e]⟩, .empty, .standard⟩
    let r : PageRequest := ⟨"task", .onField "id" .gt (.int 1), [.desc "title"], .none, true⟩
    let row (id : Int) (title : Json.Value) : Json.Row := [("id", .int id), ("title", title)]
    let tables : Dict (List Json.Row) :=
      [("task", [row 1 (.str "a"), row 2 (.str "b"), row 3 .null, row 4 (.str "b")])]
    let before := (PagingArguments.ofLast 1).withBefore (r.cursorText e (row 4 (.str "b")))
    (c.over tables).connection { r with paging := before }
      = .ok (r.pageOf e [row 2 (.str "b")] true true 3) := by
  intro e c r row tables before
  have hid : e.relation? "id" = none := rfl
  have hscope : r.filter.scope c.catalog e = .node e [] [] [("id", .column [("gt", .int 1)])] :=
    Scope.scope_onField hid .gt (.int 1)
  have hsites : (r.filter.scope c.catalog e).sites e.tableAlias
      = [⟨e, "task", "id", "gt", .int 1⟩] := by
    rw [hscope]
    rfl
  have haccepted : (r.filter.scope c.catalog e).condition .empty e.tableAlias
      = .ok (some (.group (.test (.compare .gt ⟨"task", "id"⟩ ⟨.int 1, none⟩)))) := by
    rw [hscope]
    rfl
  have hseeks : r.Seeks c e 1 :=
    { found := rfl
      keyed := List.cons_ne_nil _ _
      accepted := ⟨_, haccepted⟩
      allowed := rfl
      fits := by decide
      builtIn := Registry.empty_holdsBuiltIn
      inRange := by
        rw [Scoped.InRange, hsites]
        simp [Filter.Value.InRange, Json.fitsInt64, Json.minInt64, Json.maxInt64]
      patternsFit := by
        rw [Scoped.PatternsFit, hsites]
        decide
      plain := fun s _ => Scope.isPlain_of_empty rfl s.field }
  have htable : (c.over tables).store.table "task"
      = [row 1 (.str "a"), row 2 (.str "b"), row 3 .null, row 4 (.str "b")] := rfl
  have hd : e.Distinguishes ((c.over tables).store.table "task") := by
    rw [htable]
    simp [Entity.Distinguishes, e, row, valueAt, Dict.find?, Json.Value.int]
  have hk : HasKinds (r.order e) ((c.over tables).store.table "task") := by
    rw [htable, show r.order e = [.desc "title", .asc "id"] from rfl]
    refine List.forall_mem_cons.2 ⟨⟨.text, trivial, ?_⟩, List.forall_mem_singleton.2
      ⟨.integer, trivial, ?_⟩⟩
    · simp [row, valueAt, Dict.find?, SortField.desc]
    · simp [row, valueAt, Dict.find?, SortField.asc, SortKind.admits_int, Json.fitsInt64,
        Json.minInt64, Json.maxInt64]
  obtain ⟨matching, items, hmatching, hperm, hsorted, hpages, -⟩ :=
    connection_eq_window hseeks tables hd hk
  have hmatched : (c.over tables).store.matching r.entity r.filter
      = .ok [row 2 (.str "b"), row 3 .null, row 4 (.str "b")] := by
    have hfound : (c.over tables).store.catalog.find? r.entity = some e := rfl
    have hscope : r.filter.scope (c.over tables).store.catalog e
        = .node e [] [] [("id", .column [("gt", .int 1)])] := hscope
    rw [Store.matching, hfound]
    dsimp only
    rw [hscope]
    rfl
  obtain rfl := Except.ok.inj (hmatched.symm.trans hmatching)
  have hitems : items = [row 3 .null, row 2 (.str "b"), row 4 (.str "b")] := by
    have hsub : [row 2 (.str "b"), row 3 .null, row 4 (.str "b")].Sublist
        ((c.over tables).store.table "task") := by
      rw [htable]
      exact List.sublist_cons_self _ _
    rw [eq_sortRows (hk.subset hsub.subset) (List.Pairwise.sublist hsub (hd.separates r.sort))
      hperm hsorted]
    rfl
  subst hitems
  exact (hpages 2 (by decide)).2

/-- With fifty thousand wildcards a filter is compiled, but the first page is an error. -/
theorem connection_eq_error_of_wildcards :
    let e : Entity := ⟨"task", "tasks", none, ["id"], [⟨"id", .integer⟩, ⟨"title", .text⟩], []⟩
    let c : Compiler := ⟨⟨[e]⟩, .empty, .standard⟩
    let pattern := String.ofList (List.replicate 50000 '%')
    let r : PageRequest := ⟨"task", .onField "title" .like (.str pattern), [], .none, false⟩
    let rows : List Json.Row := [[("id", .int 1), ("title", .str "a")]]
    r.Compiles c e 1 ∧ c.registry.HoldsBuiltIn ∧ (∀ s ∈ r.order e, (c.scope e).IsPlain s.field) ∧
      e.Distinguishes rows ∧ HasKinds (r.order e) rows ∧
      (c.over [("task", rows)]).connection { r with paging := .ofFirst 1 }
        = .error (.execution (.filter "task" (.invalidValue "title" "like" .patternTooLarge))) := by
  intro e c pattern r rows
  have hlarge : Pattern.isTooLarge false (Pattern.items pattern.toList) = true :=
    Pattern.isTooLarge_text_wildcards false (by decide)
  have hfind : Dict.find? [("id", .int 1), ("title", .str "a")] "title"
      = some (Json.Value.str "a") := rfl
  have htable : (c.over [("task", rows)]).store.table r.entity
      = [[("id", .int 1), ("title", .str "a")]] := rfl
  obtain ⟨hcompiles, hpage⟩ : r.Compiles c e 1 ∧ _ :=
    compiles_and_connection_eq_error rfl rfl (List.cons_ne_nil _ _) rfl (by decide) rfl
      (Registry.empty_lookup? ..) htable hfind hlarge
  refine ⟨hcompiles, Registry.empty_holdsBuiltIn,
    fun s _ => Scope.isPlain_of_empty rfl s.field, List.pairwise_singleton _ _, ?_, hpage⟩
  rw [show r.order e = [.asc "id"] from rfl]
  exact List.forall_mem_singleton.2 ⟨.integer, trivial, List.forall_mem_singleton.2 (.inr rfl)⟩

end RowQuery.PageRequest
