import RowQuery.Proofs.Paging.Keyset
/-!
Walks from page to page while the rows change.

Each request goes on after the last row of the page before, whether that row is still there or not.
What a walk has visited is in order and lies before all that is still to come, so rows may come and
go between two requests: no position is visited twice, and a row that stays is not passed over.
-/

namespace RowQuery.PageRequest

open SortOrder

variable {r : PageRequest} {c : Compiler} {e : Entity} {size : Nat}

/-- The pages that are asked for one after another, each after the one before, until one has no next
page. At each request the store has other rows. -/
def walk (r : PageRequest) (c : Compiler) (size : Nat) :
    Option String → List (Dict (List Json.Row)) →
      Except ServiceError (List (Connection Json.Value))
  | _, [] => .ok []
  | cursor, tables :: rest => do
    let page ← (c.over tables).connection { r with paging := arguments false size cursor }
    if page.info.hasNextPage then do
      let pages ← walk r c size page.info.endCursor rest
      return page :: pages
    else return [page]

/-- The last page of a walk has no next page. -/
def HasEnded (pages : List (Connection Json.Value)) : Prop :=
  ∃ page, pages.getLast? = some page ∧ page.info.hasNextPage = false

/-- The rows of an entity in some tables. -/
def tableIn (r : PageRequest) (tables : Dict (List Json.Row)) : List Json.Row :=
  (Dict.find? tables r.entity).getD []

/-! ### One page -/

section
variable {rows : List Json.Row} {start : Option Json.Row}

theorem mem_beyond {row : Json.Row} : row ∈ r.beyond c e false start rows ↔
    row ∈ rows ∧ (c.scope e).verdict r.filter row = true ∧
      isBeyond (r.order e) start row = true := by
  rw [beyond, (perm_sortRows _ _).mem_iff, List.mem_filter, matching, List.mem_filter, and_assoc]
  rfl

theorem inOrder_beyond (hk : HasKinds (r.order e) rows) (hd : e.Distinguishes rows) :
    InOrder (r.order e) (r.beyond c e false start rows) := by
  refine inOrder_sortRows (hk.subset fun row hrow => ?_) (((hd.separates r.sort).filter _).filter _)
  exact (List.mem_filter.1 (List.mem_filter.1 hrow).1).1

theorem nodes_pageOf (hasNext hasPrevious : Bool) (total : Nat) :
    (r.pageOf e rows hasNext hasPrevious total).nodes = rows.map .obj := by
  simp [pageOf, Connection.nodes, Connection.ofEdges]

theorem endCursor_pageOf (hasNext hasPrevious : Bool) (total : Nat) :
    (r.pageOf e rows hasNext hasPrevious total).info.endCursor
      = rows.getLast?.map (r.cursorText e) := by
  simp [pageOf, Connection.ofEdges, List.getLast?_map, Function.comp_def]

/-- Every row up to the last one of a beginning is the last one or lies before it. -/
theorem eq_or_lt_of_mem_take {sort : SortOrder} (h : InOrder sort rows) {row last : Json.Row}
    (hlast : (rows.take size).getLast? = some last) (hrow : row ∈ rows.take size) :
    row = last ∨ compareRows sort row last = .lt := by
  obtain ⟨before, hbefore⟩ := List.getLast?_eq_some_iff.1 hlast
  have hsorted : InOrder sort (before ++ [last]) := hbefore ▸ h.sublist (List.take_sublist ..)
  rw [hbefore, List.mem_append, List.mem_singleton] at hrow
  rcases hrow with hrow | hrow
  · exact .inr ((List.pairwise_append.1 hsorted).2.2 row hrow last (List.mem_singleton_self _))
  · exact .inl hrow

/-- The rows that are not on a page lie behind its last row. -/
theorem lt_of_mem_drop {sort : SortOrder} (h : InOrder sort rows) {row last : Json.Row}
    (hlast : (rows.take size).getLast? = some last) (hrow : row ∈ rows.drop size) :
    compareRows sort last row = .lt := by
  rw [InOrder, ← List.take_append_drop size rows, List.pairwise_append] at h
  exact h.2.2 last (List.mem_of_getLast? hlast) row hrow

end

/-! ### Pages one after another -/

/-- What a walk from a row visits in some stores. -/
structure Visits (r : PageRequest) (c : Compiler) (e : Entity) (start : Option Json.Row)
    (stores : List (Dict (List Json.Row))) (pages : List (Connection Json.Value))
    (rows : List Json.Row) : Prop where
  nodes : pages.flatMap Connection.nodes = rows.map .obj
  sorted : InOrder (r.order e) rows
  found : ∀ row ∈ rows, (∃ tables ∈ stores, row ∈ r.tableIn tables) ∧
    (c.scope e).Judges r.filter row true
  beyond : ∀ row ∈ rows, isBeyond (r.order e) start row = true
  complete : HasEnded pages → ∀ row,
    (∀ tables ∈ stores.take pages.length, row ∈ r.tableIn tables) →
    (c.scope e).Judges r.filter row true → isBeyond (r.order e) start row = true → row ∈ rows

section
variable {tables : Dict (List Json.Row)} {rest : List (Dict (List Json.Row))}
  {start : Option Json.Row} (page : Connection Json.Value)
  (hk : HasKinds (r.order e) (start.toList ++ (tables :: rest).flatMap r.tableIn))
  (hd : e.Distinguishes (r.tableIn tables))
include hk hd

/-- A page without a next one ends the walk. -/
theorem Seeks.visits_last (h : r.Seeks c e size)
    (hpage : page.nodes = (r.beyond c e false start (r.tableIn tables)).map .obj) :
    r.Visits c e start (tables :: rest) [page] (r.beyond c e false start (r.tableIn tables)) := by
  have hkinds : HasKinds (r.order e) (r.tableIn tables) := hk.subset fun row hrow => by simp [hrow]
  refine ⟨by rw [List.flatMap_singleton, hpage], inOrder_beyond hkinds hd, fun row hrow => ?_,
    fun row hrow => (mem_beyond.1 hrow).2.2, fun _ row htables hmatch hbeyond => ?_⟩
  · obtain ⟨htable, hverdict, -⟩ := mem_beyond.1 hrow
    exact ⟨⟨tables, List.mem_cons_self .., htable⟩, hverdict ▸ h.decides row⟩
  · exact mem_beyond.2 ⟨htables tables (by simp), hmatch.verdict_eq, hbeyond⟩

/-- A page with a next one goes before what is visited from its last row. -/
theorem Seeks.visits_cons (h : r.Seeks c e size) {last : Json.Row}
    (hlast : ((r.beyond c e false start (r.tableIn tables)).take size).getLast? = some last)
    {pages : List (Connection Json.Value)} {rows : List Json.Row}
    (hnext : page.info.hasNextPage = true)
    (hpage : page.nodes = ((r.beyond c e false start (r.tableIn tables)).take size).map .obj)
    (hrest : r.Visits c e (some last) rest pages rows) :
    r.Visits c e start (tables :: rest) (page :: pages)
      ((r.beyond c e false start (r.tableIn tables)).take size ++ rows) := by
  have hsorted : InOrder (r.order e) (r.beyond c e false start (r.tableIn tables)) :=
    inOrder_beyond (hk.subset fun row hrow => by simp [hrow]) hd
  have hfirst : ∀ row ∈ (r.beyond c e false start (r.tableIn tables)).take size,
      row ∈ r.tableIn tables ∧ (c.scope e).verdict r.filter row = true ∧
        isBeyond (r.order e) start row = true :=
    fun row hrow => mem_beyond.1 (List.mem_of_mem_take hrow)
  have hlastFirst := hfirst last (List.mem_of_getLast? hlast)
  have hnow : ∀ row ∈ r.tableIn tables,
      row ∈ start.toList ++ (tables :: rest).flatMap r.tableIn :=
    fun row hrow => List.mem_append_right _ (List.mem_append_left _ hrow)
  have hthen : ∀ row ∈ rows, row ∈ start.toList ++ (tables :: rest).flatMap r.tableIn := by
    intro row hrow
    obtain ⟨⟨others, hothers, hrow⟩, -⟩ := hrest.found row hrow
    exact List.mem_append_right _ (List.mem_append_right _
      (List.mem_flatMap.2 ⟨others, hothers, hrow⟩))
  have hlater : ∀ row ∈ rows, compareRows (r.order e) last row = .lt :=
    fun row hrow => of_decide_eq_true (hrest.beyond row hrow)
  constructor
  case nodes => rw [List.flatMap_cons, hpage, hrest.nodes, List.map_append]
  case sorted =>
    refine List.pairwise_append.2 ⟨hsorted.sublist (List.take_sublist ..), hrest.sorted,
      fun x hx y hy => ?_⟩
    rcases eq_or_lt_of_mem_take hsorted hlast hx with rfl | hlt
    · exact hlater y hy
    · exact hk.lt_trans (hnow x (hfirst x hx).1) (hnow last hlastFirst.1) (hthen y hy) hlt
        (hlater y hy)
  case found =>
    intro row hrow
    rcases List.mem_append.1 hrow with hrow | hrow
    · obtain ⟨htable, hverdict, -⟩ := hfirst row hrow
      exact ⟨⟨tables, List.mem_cons_self .., htable⟩, hverdict ▸ h.decides row⟩
    · obtain ⟨⟨others, hothers, htable⟩, hmatch⟩ := hrest.found row hrow
      exact ⟨⟨others, List.mem_cons_of_mem _ hothers, htable⟩, hmatch⟩
  case beyond =>
    intro row hrow
    rcases List.mem_append.1 hrow with hfound | hfound
    · exact (hfirst row hfound).2.2
    · cases start with
      | none => rfl
      | some s =>
        exact decide_eq_true (hk.lt_trans (List.mem_cons_self ..) (hnow last hlastFirst.1)
          (hthen row hfound) (of_decide_eq_true hlastFirst.2.2) (hlater row hfound))
  case complete =>
    rintro ⟨final, hfinal, hended⟩ row htables hmatch hbeyond
    have hpages : HasEnded pages := by
      cases pages with
      | nil =>
        rw [List.getLast?_singleton] at hfinal
        rw [← Option.some.inj hfinal, hnext] at hended
        cases hended
      | cons next others => exact ⟨final, hfinal, hended⟩
    have hrow : row ∈ r.beyond c e false start (r.tableIn tables) :=
      mem_beyond.2 ⟨htables tables (List.mem_cons_self ..), hmatch.verdict_eq, hbeyond⟩
    rw [← List.take_append_drop size (r.beyond c e false start (r.tableIn tables)),
      List.mem_append] at hrow
    rcases hrow with hrow | hrow
    · exact List.mem_append_left _ hrow
    · refine List.mem_append_right _ (hrest.complete hpages row
        (fun others hothers => htables others (List.mem_cons_of_mem _ hothers)) hmatch ?_)
      exact decide_eq_true (lt_of_mem_drop hsorted hlast hrow)

end

/-- What is visited, whatever happens to the rows between two requests. -/
theorem Seeks.walk_visits (h : r.Seeks c e size) (hpos : 0 < size) :
    ∀ (stores : List (Dict (List Json.Row))) (start : Option Json.Row),
      HasKinds (r.order e) (start.toList ++ stores.flatMap r.tableIn) →
      (∀ tables ∈ stores, e.Distinguishes (r.tableIn tables)) →
      ∃ pages rows, r.walk c size (start.map (r.cursorText e)) stores = .ok pages ∧
        r.Visits c e start stores pages rows
  | [], start, _, _ => by
    refine ⟨[], [], rfl, rfl, List.Pairwise.nil, List.forall_mem_nil _, List.forall_mem_nil _, ?_⟩
    rintro ⟨page, hlast, -⟩
    cases hlast
  | tables :: rest, start, hk, hd => by
    have hd' := hd tables (List.mem_cons_self ..)
    have hkinds : HasKinds (r.order e) (start.toList ++ r.tableIn tables) :=
      hk.subset fun row hrow => by
        rw [List.flatMap_cons, ← List.append_assoc]
        exact List.mem_append_left _ hrow
    obtain ⟨found, hfound⟩ : ∃ found, r.beyond c e false start (r.tableIn tables) = found :=
      ⟨_, rfl⟩
    obtain ⟨total, htotal⟩ : ∃ total, (r.matching c e (r.tableIn tables)).length = total :=
      ⟨_, rfl⟩
    have htable : (c.over tables).store.table r.entity = r.tableIn tables := rfl
    have hpage := h.connection_eq false htable hfound htotal hkinds
    rw [if_neg Bool.false_ne_true] at hpage
    rw [walk, hpage, ok_bind]
    by_cases hmore : size < found.length
    · obtain ⟨last, hlast⟩ : ∃ last, (found.take size).getLast? = some last := by
        rw [← Option.isSome_iff_exists, List.getLast?_isSome]
        exact List.ne_nil_of_length_pos (by rw [List.length_take]; omega)
      have hmem : last ∈ r.tableIn tables := by
        rw [← hfound] at hlast
        exact (mem_beyond.1 (List.mem_of_mem_take (List.mem_of_getLast? hlast))).1
      obtain ⟨pages, rows, hwalk, hvisits⟩ := walk_visits h hpos rest (some last)
        (hk.subset (by simp [hmem]))
        fun others hothers => hd others (List.mem_cons_of_mem _ hothers)
      refine ⟨_, _, ?_, h.visits_cons (r.pageOf e (found.take size) true start.isSome total) hk hd'
        (hfound ▸ hlast) rfl (by rw [nodes_pageOf, hfound]) hvisits⟩
      have hnext : (r.pageOf e (found.take size) true start.isSome total).info.hasNextPage = true :=
        rfl
      rw [decide_eq_true hmore, hnext, if_pos rfl, endCursor_pageOf, hlast, hwalk]
      rfl
    · rw [decide_eq_false hmore]
      refine ⟨_, _, rfl, h.visits_last (r.pageOf e (found.take size) false start.isSome total) hk
        hd' ?_⟩
      rw [nodes_pageOf, hfound, List.take_of_length_le (Nat.le_of_not_lt hmore)]

/-- A walk over rows that come and go is in order, so it visits no position twice, and when it ends
it has visited each matching row that was there at every request. -/
theorem walk_visits_unchanged (h : r.Seeks c e size) (hpos : 0 < size)
    (stores : List (Dict (List Json.Row)))
    (hd : ∀ tables ∈ stores, e.Distinguishes (r.tableIn tables))
    (hk : HasKinds (r.order e) (stores.flatMap r.tableIn)) :
    ∃ pages rows, r.walk c size none stores = .ok pages ∧
      pages.flatMap Connection.nodes = rows.map .obj ∧
      InOrder (r.order e) rows ∧ Separates (r.order e) rows ∧
      (∀ row ∈ rows, (∃ tables ∈ stores, row ∈ r.tableIn tables) ∧
        (c.scope e).Judges r.filter row true) ∧
      (HasEnded pages → ∀ row, (∀ tables ∈ stores.take pages.length, row ∈ r.tableIn tables) →
        (c.scope e).Judges r.filter row true → row ∈ rows) := by
  obtain ⟨pages, rows, hwalk, hvisits⟩ := h.walk_visits hpos stores none hk hd
  have hkinds : HasKinds (r.order e) rows := by
    refine hk.subset fun row hrow => ?_
    obtain ⟨⟨tables, htables, hrow⟩, -⟩ := hvisits.found row hrow
    exact List.mem_flatMap.2 ⟨tables, htables, hrow⟩
  exact ⟨pages, rows, hwalk, hvisits.nodes, hvisits.sorted, hvisits.sorted.separates hkinds,
    hvisits.found,
    fun hended row htables hmatch => hvisits.complete hended row htables hmatch rfl⟩

/-- Between two requests a task that was visited goes and two others come; the fourth task stays. -/
theorem walk_visits_unchanged_task :
    let e : Entity := ⟨"task", "tasks", none, ["id"], [⟨"id", .integer⟩, ⟨"title", .text⟩], []⟩
    let c : Compiler := ⟨⟨[e]⟩, .empty, .standard⟩
    let r : PageRequest := ⟨"task", .empty, [.desc "title"], .none, false⟩
    let row (id : Int) (title : Json.Value) : Json.Row := [("id", .int id), ("title", title)]
    let stores : List (Dict (List Json.Row)) :=
      [[("task", [row 2 (.str "b"), row 3 .null, row 4 (.str "b")])],
        [("task", [row 5 (.str "c"), row 4 (.str "b"), row 6 (.str "a")])]]
    ∃ pages rows, r.walk c 2 none stores = .ok pages ∧
      pages.flatMap Connection.nodes = rows.map .obj ∧ InOrder (r.order e) rows ∧
      (HasEnded pages → row 4 (.str "b") ∈ rows) := by
  intro e c r row stores
  have hscope : r.filter.scope c.catalog e = .node e [] [] [] := Scope.scope_empty ..
  have haccepted : (r.filter.scope c.catalog e).condition .empty e.tableAlias = .ok none := by
    rw [hscope]
    rfl
  have hsites : (r.filter.scope c.catalog e).sites e.tableAlias = [] := by
    rw [hscope]
    rfl
  have hseeks : r.Seeks c e 2 :=
    { found := rfl
      keyed := List.cons_ne_nil _ _
      accepted := ⟨_, haccepted⟩
      allowed := rfl
      fits := by decide
      builtIn := Registry.empty_holdsBuiltIn
      inRange := by rw [Scoped.InRange, hsites]; exact List.forall_mem_nil _
      patternsFit := by rw [Scoped.PatternsFit, hsites]; exact List.forall_mem_nil _
      plain := fun s _ => Scope.isPlain_of_empty rfl s.field }
  have hd : ∀ tables ∈ stores, e.Distinguishes (r.tableIn tables) := by
    simp [stores, r, tableIn, Entity.Distinguishes, e, row, valueAt, Dict.find?, Json.Value.int]
  have hk : HasKinds (r.order e) (stores.flatMap r.tableIn) := by
    rw [show r.order e = [.desc "title", .asc "id"] from rfl]
    refine List.forall_mem_cons.2 ⟨⟨.text, trivial, ?_⟩, List.forall_mem_singleton.2
      ⟨.integer, trivial, ?_⟩⟩
    · simp [stores, r, tableIn, row, valueAt, Dict.find?, SortField.desc]
    · simp [stores, r, tableIn, row, valueAt, Dict.find?, SortField.asc, SortKind.admits_int,
        Json.fitsInt64, Json.minInt64, Json.maxInt64]
  obtain ⟨pages, rows, hwalk, hnodes, hsorted, -, -, hcomplete⟩ :=
    walk_visits_unchanged hseeks (by decide) stores hd hk
  refine ⟨pages, rows, hwalk, hnodes, hsorted, fun hended => hcomplete hended _ ?_ ?_⟩
  · intro tables htables
    rcases List.mem_cons.1 (List.mem_of_mem_take htables) with rfl | htables
    · simp [tableIn, r, Dict.find?]
    · simp [List.mem_singleton.1 htables, tableIn, r, Dict.find?]
  · exact Scope.holds_empty ..

/-- With fifty thousand wildcards a filter is compiled, but a walk ends in an error. -/
theorem walk_eq_error_of_wildcards :
    let e : Entity := ⟨"task", "tasks", none, ["id"], [⟨"id", .integer⟩, ⟨"title", .text⟩], []⟩
    let c : Compiler := ⟨⟨[e]⟩, .empty, .standard⟩
    let pattern := String.ofList (List.replicate 50000 '%')
    let r : PageRequest := ⟨"task", .onField "title" .like (.str pattern), [], .none, false⟩
    let rows : List Json.Row := [[("id", .int 1), ("title", .str "a")]]
    r.Compiles c e 1 ∧ c.registry.HoldsBuiltIn ∧ (∀ s ∈ r.order e, (c.scope e).IsPlain s.field) ∧
      e.Distinguishes rows ∧ HasKinds (r.order e) rows ∧
      r.walk c 1 none [[("task", rows)]]
        = .error (.execution (.filter "task" (.invalidValue "title" "like" .patternTooLarge))) := by
  intro e c pattern r rows
  have hlarge : Pattern.isTooLarge false (Pattern.items pattern.toList) = true :=
    Pattern.isTooLarge_text_wildcards false (by decide)
  have hfind : Dict.find? [("id", .int 1), ("title", .str "a")] "title"
      = some (Json.Value.str "a") := rfl
  have htable : (c.over [("task", rows)]).store.table r.entity
      = [[("id", .int 1), ("title", .str "a")]] := rfl
  obtain ⟨hcompiles, hpage⟩ : r.Compiles c e 1 ∧ _ :=
    compiles_and_connection_eq_error rfl rfl (List.cons_ne_nil _ _) rfl (by decide) rfl
      (Registry.empty_lookup? ..) htable hfind hlarge
  refine ⟨hcompiles, Registry.empty_holdsBuiltIn,
    fun s _ => Scope.isPlain_of_empty rfl s.field, List.pairwise_singleton _ _, ?_, ?_⟩
  · rw [show r.order e = [.asc "id"] from rfl]
    exact List.forall_mem_singleton.2 ⟨.integer, trivial, List.forall_mem_singleton.2 (.inr rfl)⟩
  · rw [walk, hpage]
    rfl

end RowQuery.PageRequest
