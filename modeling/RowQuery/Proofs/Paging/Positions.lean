import RowQuery.Proofs.Compiler
import RowQuery.Proofs.Paging.Keyset
import RowQuery.Proofs.Store
/-!
Pages by position.

Every positional page is a window of one list: what the request finds without paging, in the sort
with the key set. The window is cut with numbers of 64 bits, and as no table has more rows than
these can count, nothing is lost where they end: beyond the largest position there are no rows. The
cursor of a row holds its position in the list.
-/

namespace RowQuery

/-! ### Windows of rows -/

/-- The page shows some rows from a position up to another one, each with its position. -/
structure Connection.Shows (p : Connection Json.Value) (rows : List Json.Value)
    (start stop : Nat) : Prop where
  nodes : p.nodes = (rows.take stop).drop start
  cursors : ∀ i edge, p.edges[i]? = some edge →
    Cursor.decode edge.cursor = .ok (.position (start + i))

namespace WindowPlan

theorem nodes_edgesFrom : ∀ (rows : List Json.Value) (position : Nat),
    (edgesFrom position rows).map (·.node) = rows
  | [], _ => rfl
  | row :: rest, position => by
    rw [edgesFrom, List.map_cons, nodes_edgesFrom rest (position + 1)]

/-- A cursor holds the position of its row, if 64 bits hold the positions of all rows. -/
theorem decode_edgesFrom : ∀ {rows : List Json.Value} {position i : Nat} {edge : Edge Json.Value},
    position + rows.length ≤ Json.maxUInt64 + 1 → (edgesFrom position rows)[i]? = some edge →
      Cursor.decode edge.cursor = .ok (.position (position + i))
  | row :: rest, position, 0, edge, hfits, hedge => by
    have hlt : position < Json.maxUInt64 + 1 := by
      rw [List.length_cons] at hfits
      omega
    obtain rfl := Option.some.inj hedge
    rw [Nat.mod_eq_of_lt hlt, Nat.add_zero]
    exact Cursor.decode_encode (c := .position position) (Nat.le_of_lt_succ hlt)
  | row :: rest, position, i + 1, edge, hfits, hedge => by
    have hfits' : position + 1 + rest.length ≤ Json.maxUInt64 + 1 := by
      rw [List.length_cons] at hfits
      omega
    rw [show position + (i + 1) = position + 1 + i by omega]
    exact decode_edgesFrom hfits' hedge

variable {rows : List Json.Value}

/-- The rows that a plan fetches of those found. -/
def fetched (p : WindowPlan) (rows : List Json.Value) : List Json.Value :=
  (rows.drop p.start).take p.fetchLimit

theorem shows_finish {p : WindowPlan} (hfits : rows.length ≤ Json.maxUInt64)
    (hlimit : p.size ≤ p.fetchLimit ∨ rows.length ≤ p.fetchLimit) :
    (p.finish (p.fetched rows)).Shows rows p.start (p.start + p.size) := by
  have hrows : (p.fetched rows).take p.size = (rows.drop p.start).take p.size := by
    rcases hlimit with hlimit | hlimit
    · rw [fetched, List.take_take, Nat.min_eq_left hlimit]
    · rw [fetched, List.take_of_length_le (i := p.fetchLimit)]
      rw [List.length_drop]
      omega
  constructor
  case nodes =>
    rw [finish, Connection.nodes, Connection.ofEdges, nodes_edgesFrom, hrows, List.drop_take,
      Nat.add_sub_cancel_left]
  case cursors =>
    intro i edge hedge
    rw [finish, Connection.ofEdges, hrows] at hedge
    by_cases hstart : p.start ≤ Json.maxUInt64
    · refine decode_edgesFrom ?_ hedge
      rw [List.length_take, List.length_drop]
      omega
    · rw [List.drop_of_length_le (by omega)] at hedge
      simp [edgesFrom] at hedge

/-- A window whose end is not known has rows behind it just if there are some: one more is fetched,
and where the limit has no room for it all rows are on the page. -/
theorem shows_finish_openEnded (start size : Nat) (hfits : rows.length ≤ Json.maxUInt64) :
    ((openEnded start size).finish ((openEnded start size).fetched rows)).Shows rows start
        (start + size) ∧
      ((openEnded start size).finish ((openEnded start size).fetched rows)).info.hasNextPage
        = decide (start + size < rows.length) := by
  have hlimit : (openEnded start size).fetchLimit = min (size + 1) Json.maxUInt64 := rfl
  have hmore : size < ((openEnded start size).fetched rows).length
      ↔ start + size < rows.length := by
    rw [fetched, hlimit, List.length_take, List.length_drop]
    dsimp only [openEnded]
    omega
  refine ⟨shows_finish hfits ?_, decide_eq_decide.2 hmore⟩
  rw [hlimit, show (openEnded start size).size = size from rfl]
  omega

/-- The window after a position. Beyond the largest position there are no rows, so it does not
matter that the window cannot begin there. -/
theorem shows_finish_after (k size : Nat) (hfits : rows.length ≤ Json.maxUInt64) :
    let p := openEnded (min (k + 1) Json.maxUInt64) size
    (p.finish (p.fetched rows)).Shows rows (k + 1) (k + 1 + size) ∧
      (p.finish (p.fetched rows)).info.hasNextPage = decide (k + 1 + size < rows.length) := by
  obtain ⟨hshows, hnext⟩ := shows_finish_openEnded (min (k + 1) Json.maxUInt64) size hfits
  by_cases hk : k + 1 ≤ Json.maxUInt64
  · rw [Nat.min_eq_left hk] at hshows hnext ⊢
    exact ⟨hshows, hnext⟩
  · rw [Nat.min_eq_right (by omega)] at hshows hnext ⊢
    have hnodes := hshows.nodes
    rw [List.drop_of_length_le (by rw [List.length_take]; omega)] at hnodes
    refine ⟨⟨?_, ?_⟩, hnext.trans (decide_eq_decide.2 (by omega))⟩
    · rw [hnodes, List.drop_of_length_le (by rw [List.length_take]; omega)]
    · intro i edge hedge
      rw [List.map_eq_nil_iff.1 hnodes] at hedge
      cases hedge

theorem shows_finish_before (stop size : Nat) (hfits : rows.length ≤ Json.maxUInt64) :
    ((before stop size).finish ((before stop size).fetched rows)).Shows rows
      (stop - size) stop := by
  have hshows := shows_finish (p := before stop size) hfits (.inl (Nat.le_refl _))
  dsimp only [before] at hshows ⊢
  rwa [show stop - size + (stop - (stop - size)) = stop by omega] at hshows

end WindowPlan

namespace PageRequest

variable {s : Service} {r : PageRequest} {e : Entity} {rows : List Json.Value}

/-! ### What is found without paging -/

/-- Fetching a window is cutting it out of what is fetched without one. -/
theorem fetch_window (store : Store) (name : String) (f : Filter) (statement : Sql.Rows)
    (sort : SortOrder) (limit : Option Nat) (offset : Nat) :
    store.fetch ⟨name, f, ⟨statement, sort, limit, offset⟩⟩
      = (store.fetch ⟨name, f, ⟨statement, sort, none, 0⟩⟩).map (Store.window limit offset) := by
  simp only [Store.fetch]
  cases store.matching name f with
  | error cause => rfl
  | ok found =>
    simp only [Except.mapError, ok_bind]
    cases Store.ordered (sort.arrange? .eight found) with
    | error cause => rfl
    | ok sorted => cases limit <;> simp [ok_bind, Store.window, Except.map, pure, Except.pure]

section
variable (hfound : s.compiler.catalog.find? r.entity = some e)
include hfound

/-- What is found can be counted. -/
theorem exists_count_of_many (hrows : s.many r.entity r.filter (r.order e) none 0 = .ok rows) :
    ∃ total, s.count r.entity r.filter = .ok total := by
  obtain ⟨q, hq, hfetch⟩ := bind_eq_ok.1 hrows
  obtain ⟨e', statement, he', hstatement, rfl⟩ := Compiler.rows_of_many (mapError_eq_ok.1 hq)
  obtain rfl := Option.some.inj (hfound.symm.trans he')
  obtain ⟨found, hmatching, -⟩ := bind_eq_ok.1 (mapError_eq_ok.1 hfetch)
  have hcompiled : s.compiler.count r.entity r.filter
      = .ok ⟨e.name, r.filter, statement, Compiler.countedName, [.countAll], []⟩ :=
    bind_eq_ok.2 ⟨e, Compiler.entity_eq_ok.2 hfound, bind_eq_ok.2 ⟨statement, hstatement, rfl⟩⟩
  have hmatching := mapError_eq_ok.1 hmatching
  exact ⟨found.length, bind_eq_ok.2 ⟨_, mapError_eq_ok.2 hcompiled,
    mapError_eq_ok.2 (map_eq_ok.2 ⟨found, hmatching, rfl⟩)⟩⟩

/-- A page that is planned by positions is cut out of what is found without paging. -/
theorem connection_eq_bind_many {a : PagingArguments} {page : Page} {plan : WindowPlan}
    (hpage : Page.ofArguments a s.compiler.policy = .ok page)
    (hplan : Compiler.plan e r.filter r.sort page = .ok (.window plan, r.filter, r.order e)) :
    s.connection { r with paging := a } = (do
      let rows ← s.many r.entity r.filter (r.order e) none 0
      let page := plan.finish (plan.fetched rows)
      if r.totalCount then do
        let total ← s.count r.entity r.filter
        return { page with totalCount := some total }
      else return page) := by
  have hentity : s.compiler.entity r.entity = .ok e := Compiler.entity_eq_ok.2 hfound
  cases hstatement : s.compiler.rows e r.filter with
  | error cause =>
    simp only [Service.connection, Service.many, Compiler.page, Compiler.many, Compiler.select,
      hentity, hpage, hplan, hstatement, ok_bind]
    rfl
  | ok statement =>
    have hwindow : s.store.fetch
        ⟨e.name, r.filter, ⟨statement, r.order e, some plan.fetchLimit, plan.start⟩⟩
        = (s.store.fetch ⟨e.name, r.filter, ⟨statement, r.order e, none, 0⟩⟩).map plan.fetched :=
      fetch_window ..
    simp only [Service.connection, Service.many, Compiler.page, Compiler.many, Compiler.select,
      hentity, hpage, hplan, hstatement, ok_bind, pure, Except.pure, Service.compiled,
      Service.executed, Except.mapError, PagePlan.fetchLimit, PagePlan.fetchOffset,
      PagePlan.finish, hwindow]
    cases s.store.fetch ⟨e.name, r.filter, ⟨statement, r.order e, none, 0⟩⟩ <;> rfl

end

/-! ### Plans -/

/-- Pages are planned by positions if the entity has no key set or a window is asked for. -/
theorem plan_eq_map_window {f : Filter} {sort : SortOrder} {page : Page}
    (hstyle : e.keySet = [] ∨ page.isWindow = true) :
    Compiler.plan e f sort page
      = (WindowPlan.ofPage page).map fun p => (.window p, f, sort.withKeySet e.keySet) := by
  have hseeks : (e.hasKeySet && !page.isWindow) = false := by
    rcases hstyle with hkeys | hwindow
    · simp [Entity.hasKeySet, hkeys]
    · simp [hwindow]
  simp only [Compiler.plan, hseeks, Bool.false_eq_true, if_false]
  cases WindowPlan.ofPage page <;> rfl

theorem plan_of_keySet_eq_nil {f : Filter} {sort : SortOrder} {page : Page} {plan : WindowPlan}
    (hkeys : e.keySet = []) (hplan : WindowPlan.ofPage page = .ok plan) :
    Compiler.plan e f sort page = .ok (.window plan, f, sort.withKeySet e.keySet) := by
  rw [plan_eq_map_window (.inl hkeys), hplan]
  rfl

theorem plan_window (e : Entity) (f : Filter) (sort : SortOrder) (limit offset : Nat) :
    Compiler.plan e f sort (.window limit offset)
      = .ok (.window (.openEnded offset limit), f, sort.withKeySet e.keySet) :=
  plan_eq_map_window (.inr rfl)

theorem ofArguments_ofLimit {policy : PagingPolicy} {size : Nat}
    (hsize : policy.check size = .ok size) (offset : Nat) :
    Page.ofArguments (.ofLimit size offset) policy = .ok (.window size offset) := by
  simp [Page.ofArguments, PagingArguments.mixture?, PagingArguments.usesOffset,
    PagingArguments.usesCursor, PagingArguments.ofLimit, PagingArguments.none, Page.ofStyle,
    Page.count_natCast, hsize, ok_bind, pure, Except.pure]

/-! ### Pages -/

/-- What a request with some paging arguments is answered with: a page that shows, of the rows that
are found without paging, those from a position up to another one, and that says so much of their
number; or the cause for which no rows can be found. -/
structure AnswersWindow (s : Service) (r : PageRequest) (e : Entity) (a : PagingArguments)
    (start stop : Nat) (around : Nat → PageInfo → Prop) : Prop where
  page : ∀ rows, s.many r.entity r.filter (r.order e) none 0 = .ok rows →
    rows.length ≤ Json.maxUInt64 → ∃ page, s.connection { r with paging := a } = .ok page ∧
      page.Shows rows start stop ∧ around rows.length page.info
  cause : ∀ cause, s.many r.entity r.filter (r.order e) none 0 = .error cause →
    s.connection { r with paging := a } = .error cause

/-- The answer to what is planned by positions is what the plan makes of the rows that are found,
whether or not they are counted. -/
theorem answersWindow_of_plan (hfound : s.compiler.catalog.find? r.entity = some e)
    {a : PagingArguments} {page : Page} {plan : WindowPlan}
    (hpage : Page.ofArguments a s.compiler.policy = .ok page)
    (hplan : Compiler.plan e r.filter r.sort page = .ok (.window plan, r.filter, r.order e))
    {start stop : Nat} {around : Nat → PageInfo → Prop}
    (h : ∀ rows : List Json.Value, rows.length ≤ Json.maxUInt64 →
      (plan.finish (plan.fetched rows)).Shows rows start stop ∧
        around rows.length (plan.finish (plan.fetched rows)).info) :
    AnswersWindow s r e a start stop around := by
  have hconnection := connection_eq_bind_many hfound hpage hplan
  constructor
  case page =>
    intro rows hrows hfits
    obtain ⟨hshows, haround⟩ := h rows hfits
    obtain ⟨total, htotal⟩ := exists_count_of_many hfound hrows
    rw [hconnection, hrows, htotal]
    cases r.totalCount
    · exact ⟨_, rfl, hshows, haround⟩
    · exact ⟨_, rfl, ⟨hshows.nodes, hshows.cursors⟩, haround⟩
  case cause =>
    intro cause hcause
    rw [hconnection, hcause]
    rfl

/-- Pages by position are windows of what the request finds without paging, in the sort with the
key set: from an offset whatever the entity, and, if it has no key set, from the beginning, after a
position and before one. -/
theorem connection_shows_positions {size : Nat}
    (hfound : s.compiler.catalog.find? r.entity = some e)
    (hsize : s.compiler.policy.check size = .ok size) :
    (∀ offset : Nat,
      AnswersWindow s r e (.ofLimit size offset) offset (offset + size) fun count info =>
        info.hasNextPage = decide (offset + size < count) ∧
          info.hasPreviousPage = decide (0 < offset)) ∧
    (e.keySet = [] →
      (AnswersWindow s r e (.ofFirst size) 0 size fun count info =>
        info.hasNextPage = decide (size < count) ∧ info.hasPreviousPage = false) ∧
      ∀ text k, Cursor.decode text = .ok (.position k) →
        (AnswersWindow s r e ((PagingArguments.ofFirst size).withAfter text)
          (k + 1) (k + 1 + size) fun count info =>
            info.hasNextPage = decide (k + 1 + size < count) ∧ info.hasPreviousPage = true) ∧
        (AnswersWindow s r e ((PagingArguments.ofLast size).withBefore text)
          (k - size) k fun count info =>
            (k < count → info.hasNextPage = true) ∧
              info.hasPreviousPage = decide (size < k))) := by
  constructor
  case left =>
    intro offset
    refine answersWindow_of_plan hfound (ofArguments_ofLimit hsize offset) (plan_window ..) ?_
    intro rows hfits
    obtain ⟨hshows, hnext⟩ := WindowPlan.shows_finish_openEnded offset size hfits
    exact ⟨hshows, hnext, rfl⟩
  case right =>
    intro hkeys
    constructor
    case left =>
      refine answersWindow_of_plan hfound (ofArguments_of_none hsize false)
        (plan_of_keySet_eq_nil hkeys rfl) ?_
      intro rows hfits
      obtain ⟨hshows, hnext⟩ := WindowPlan.shows_finish_openEnded 0 size hfits
      rw [Nat.zero_add] at hshows hnext
      exact ⟨hshows, hnext, rfl⟩
    case right =>
      intro text k htext
      constructor
      case left =>
        refine answersWindow_of_plan hfound (ofArguments_of_decode hsize htext false)
          (plan_of_keySet_eq_nil hkeys rfl) ?_
        intro rows hfits
        obtain ⟨hshows, hnext⟩ := WindowPlan.shows_finish_after k size hfits
        have hmax : 0 < Json.maxUInt64 := by decide
        exact ⟨hshows, hnext, decide_eq_true (by omega)⟩
      case right =>
        refine answersWindow_of_plan hfound (ofArguments_of_decode hsize htext true)
          (plan_of_keySet_eq_nil hkeys rfl) ?_
        intro rows hfits
        refine ⟨WindowPlan.shows_finish_before k size hfits, fun _ => rfl, ?_⟩
        exact decide_eq_decide.2 Nat.sub_pos_iff_lt

/-- Of three entries, the latest first, those after the first one. -/
theorem connection_shows_positions_log :
    let e : Entity := ⟨"log", "log", none, [], [⟨"n", .integer⟩], []⟩
    let c : Compiler := ⟨⟨[e]⟩, .empty, .standard⟩
    let s := c.over [("log", [[("n", .int 1)], [("n", .int 3)], [("n", .int 2)]])]
    let r : PageRequest := ⟨"log", .empty, [.desc "n"], .none, true⟩
    s.many r.entity r.filter (r.order e) none 0
        = .ok [.obj [("n", .int 3)], .obj [("n", .int 2)], .obj [("n", .int 1)]] ∧
      ∃ page, s.connection
          { r with paging := (PagingArguments.ofFirst 2).withAfter (Cursor.position 0).encode }
          = .ok page ∧
        page.nodes = [.obj [("n", .int 2)], .obj [("n", .int 1)]] ∧
        page.info.hasNextPage = false ∧ page.info.hasPreviousPage = true := by
  intro e c s r
  have hstatement : c.rows e r.filter = .ok ⟨"log", "log", [], none⟩ := Compiler.rows_empty c e
  have hmatching : s.store.matching "log" r.filter
      = .ok [[("n", .int 1)], [("n", .int 3)], [("n", .int 2)]] :=
    Store.matching_empty (show s.store.catalog.find? "log" = some e from rfl)
  have hrows : s.many r.entity r.filter (r.order e) none 0
      = .ok [.obj [("n", .int 3)], .obj [("n", .int 2)], .obj [("n", .int 1)]] := by
    have hselected : c.many "log" r.filter (r.order e) none 0
        = .ok ⟨"log", r.filter, ⟨⟨"log", "log", [], none⟩, r.order e, none, 0⟩⟩ :=
      bind_eq_ok.2 ⟨e, Compiler.entity_eq_ok.2 rfl, bind_eq_ok.2 ⟨_, hstatement, rfl⟩⟩
    exact bind_eq_ok.2 ⟨_, mapError_eq_ok.2 hselected,
      mapError_eq_ok.2 (bind_eq_ok.2 ⟨_, mapError_eq_ok.2 hmatching, rfl⟩)⟩
  obtain ⟨-, hpositions⟩ := @connection_shows_positions s r e 2 rfl rfl
  obtain ⟨-, hpages⟩ := hpositions rfl
  have hcursor : Cursor.decode (Cursor.position 0).encode = .ok (.position 0) :=
    Cursor.decode_encode (Nat.zero_le Json.maxUInt64)
  obtain ⟨page, hpage, hshows, hnext, hprevious⟩ :=
    (hpages _ 0 hcursor).1.page _ hrows (by decide)
  exact ⟨hrows, page, hpage, hshows.nodes, hnext, hprevious⟩

end PageRequest
end RowQuery
