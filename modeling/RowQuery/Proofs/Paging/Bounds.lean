import RowQuery.Proofs.Paging.Arguments
import RowQuery.Proofs.Paging.Resumption
/-!
How large the limit and the offset of a page can get.

A database takes numbers of 64 signed bits, and the numbers of a page are of 64 unsigned bits: a
size may be the default of a policy, a position may come from a cursor, and one more than either is
asked for. So the bounds of a compiled page are as many rows as its arguments call for, cut off at
the largest number of 64 unsigned bits, and there are pages whose bounds the database does not take.
-/

namespace RowQuery

/-- A number that a database takes: one of 64 signed bits. -/
def Bindable (n : Nat) : Prop := (n : Int) ≤ Json.maxInt64

instance (n : Nat) : Decidable (Bindable n) := inferInstanceAs (Decidable ((n : Int) ≤ _))

/-- The number, or the largest of 64 unsigned bits if that is smaller. -/
def Saturates (n exact : Nat) : Prop := n = exact ∨ n = Json.maxUInt64 ∧ Json.maxUInt64 < exact

theorem saturates_min (n : Nat) : Saturates (min n Json.maxUInt64) n := by
  rw [Saturates]
  omega

/-- A number that is cut off is too large either way. -/
theorem Saturates.bindable_iff {n exact : Nat} (h : Saturates n exact) :
    Bindable n ↔ Bindable exact := by
  rcases h with rfl | ⟨rfl, hlt⟩
  · rfl
  · have hmax : Json.maxInt64 < Json.maxUInt64 := by decide
    rw [Bindable, Bindable]
    omega

namespace Page

/-- The number of rows that a page has to fetch: those between its start and a position, and one
more than it has if its end is not known. -/
def rowsAsked : Page → Nat
  | backward size (some (.position k)) => min size k
  | page => page.size + 1

/-- The number of rows before the first one of a page, if it is counted. -/
def rowsSkipped : Page → Nat
  | forward _ (some (.position k)) => k + 1
  | backward size (some (.position k)) => k - size
  | window _ offset => offset
  | _ => 0

theorem rowsAsked_le (page : Page) : page.rowsAsked ≤ page.size + 1 := by
  unfold rowsAsked
  split
  · next size k => exact (Nat.min_le_left size k).trans (Nat.le_succ size)
  · exact Nat.le_refl _

end Page

/-! ### Plans -/

/-- A sought page starts from no position, so nothing is skipped and one row more is fetched. -/
theorem SeekPlan.bounds_of_ofPage {sort : SortOrder} {page : Page} {p : SeekPlan}
    (h : SeekPlan.ofPage sort page = .ok p) :
    p.size + 1 = page.rowsAsked ∧ page.rowsSkipped = 0 := by
  cases page with
  | forward size after | backward size before =>
    obtain ⟨-, hsize, hposition⟩ := parts_of_ofCursor h
    unfold Page.rowsAsked Page.rowsSkipped
    simp_all [Page.size]
  | window => cases h

theorem WindowPlan.bounds_of_ofPage {page : Page} {p : WindowPlan}
    (h : WindowPlan.ofPage page = .ok p) :
    Saturates p.fetchLimit page.rowsAsked ∧ Saturates p.start page.rowsSkipped := by
  match page with
  | .forward size none | .window size start =>
    cases h
    exact ⟨saturates_min _, .inl rfl⟩
  | .forward size (some (.position k)) =>
    cases h
    exact ⟨saturates_min _, saturates_min _⟩
  | .backward size (some (.position k)) =>
    cases h
    -- rows follow, as the page ends before a row, so none is fetched to find out
    have hlimit : (before k size).fetchLimit = min size k := by
      change k - (k - size) = min size k
      omega
    exact ⟨.inl hlimit, .inl rfl⟩
  | .forward _ (some (.keyset _)) | .backward _ none | .backward _ (some (.keyset _)) => cases h

namespace Compiler

variable {c : Compiler} {e : Entity} {f g : Filter} {sort order : SortOrder} {page : Page}
  {plan : PagePlan}

theorem bounds_of_plan (h : Compiler.plan e f sort page = .ok (plan, g, order)) :
    Saturates plan.fetchLimit page.rowsAsked ∧ Saturates plan.fetchOffset page.rowsSkipped := by
  by_cases hseeks : e.keySet ≠ [] ∧ page.isWindow = false
  · rw [PageRequest.plan_eq_map_seek hseeks.1 hseeks.2] at h
    obtain ⟨p, hp, h⟩ := map_eq_ok.1 h
    cases h
    obtain ⟨hasked, hskipped⟩ := SeekPlan.bounds_of_ofPage hp
    rw [← hasked, hskipped]
    exact ⟨saturates_min _, .inl rfl⟩
  · rw [PageRequest.plan_eq_map_window (by simpa [or_iff_not_imp_left] using hseeks)] at h
    obtain ⟨p, hp, h⟩ := map_eq_ok.1 h
    cases h
    exact WindowPlan.bounds_of_ofPage hp

theorem bounds_of_page {name : String} {a : PagingArguments} {q : PagedFetch}
    (h : c.page name f sort a = .ok q) (hpage : Page.ofArguments a c.policy = .ok page) :
    ∃ limit, q.fetch.statement.limit = some limit ∧ Saturates limit page.rowsAsked ∧
      Saturates q.fetch.statement.offset page.rowsSkipped := by
  obtain ⟨e, page', rows, order, -, hpage', hplan, -, hfetch⟩ := parts_of_page h
  obtain rfl := Except.ok.inj (hpage.symm.trans hpage')
  obtain ⟨hlimit, hoffset⟩ := bounds_of_plan hplan
  rw [hfetch]
  exact ⟨_, rfl, hlimit, hoffset⟩

/-- The limit and the offset of a compiled page are the numbers of rows that it has to fetch and to
skip, up to the largest number of 64 unsigned bits. The database takes them just when it takes
these numbers. It always takes a limit that comes from a size within a largest size below the
largest number of 64 signed bits, and an offset that is given as such a number. -/
theorem page_bindable_iff {name : String} {a : PagingArguments} {q : PagedFetch}
    (h : c.page name f sort a = .ok q) :
    ∃ page limit, Page.ofArguments a c.policy = .ok page ∧
      q.fetch.statement.limit = some limit ∧ Saturates limit page.rowsAsked ∧
      Saturates q.fetch.statement.offset page.rowsSkipped ∧
      (Bindable limit ↔ Bindable page.rowsAsked) ∧
      (Bindable q.fetch.statement.offset ↔ Bindable page.rowsSkipped) ∧
      (∀ max, c.policy.maxSize = some max → Bindable (max + 1) → Bindable limit) ∧
      (page.isWindow = true → (∀ i, a.offset = some i → i ≤ Json.maxInt64) →
        Bindable q.fetch.statement.offset) := by
  obtain ⟨e, page, rows, order, -, hpage, -⟩ := parts_of_page h
  obtain ⟨limit, hq, hlimit, hoffset⟩ := bounds_of_page h hpage
  obtain ⟨-, -, hallows, cursor, -, hstyle⟩ := PagingArguments.ofArguments_eq_ok_iff.1 hpage
  refine ⟨page, limit, hpage, hq, hlimit, hoffset, hlimit.bindable_iff, hoffset.bindable_iff,
    fun max hmax hbindable => ?_, fun hwindow hgiven => ?_⟩
  · have hsize : page.size ≤ max := by
      have hpolicy := hallows max hmax
      rw [← hstyle]
      cases a.style <;> exact hpolicy
    have hle := page.rowsAsked_le
    rw [hlimit.bindable_iff]
    rw [Bindable] at hbindable ⊢
    omega
  · have hskipped : page.rowsSkipped = a.offset.elim 0 Int.toNat := by
      rw [← hstyle] at hwindow ⊢
      cases hused : a.style with
      | forward | backward => simp [hused, PagingStyle.page, Page.isWindow] at hwindow
      | window => rfl
    rw [hoffset.bindable_iff, hskipped, Bindable]
    cases hgivenOffset : a.offset with
    | none => decide
    | some i =>
      have hi := hgiven i hgivenOffset
      have hmax : (0 : Int) ≤ Json.maxInt64 := by decide
      change ((i.toNat : Nat) : Int) ≤ Json.maxInt64
      omega

/-! ### A log without a key set -/

section
variable {policy : PagingPolicy}

/-- An entity that is paged by position. -/
def log : Entity := ⟨"log", "logs", none, [], [⟨"id", .integer⟩], []⟩

theorem exists_page_log {a : PagingArguments} {plan : WindowPlan}
    (hpage : Page.ofArguments a policy = .ok page) (hplan : WindowPlan.ofPage page = .ok plan) :
    ∃ q, (⟨⟨[log]⟩, .empty, policy⟩ : Compiler).page "log" .empty [] a = .ok q := by
  refine exists_page (e := log) (g := .empty) rfl hpage
    (PageRequest.plan_of_keySet_eq_nil rfl hplan) ⟨none, ?_⟩
  rw [Compiler.scope, Scope.scope_empty]
  rfl

theorem ofArguments_after {size k : Nat} (hsize : policy.check size = .ok size)
    (hk : k ≤ Json.maxUInt64) :
    Page.ofArguments ((PagingArguments.ofFirst size).withAfter (Cursor.position k).encode) policy
      = .ok (.forward size (some (.position k))) :=
  PageRequest.ofArguments_of_decode hsize (Cursor.decode_encode (c := .position k) hk) false

end

/-- After the last position but one of 64 signed bits the database can still go on. -/
theorem page_bindable_iff_log :
    let c : Compiler := ⟨⟨[log]⟩, .empty, .standard⟩
    ∃ q, c.page "log" .empty []
        ((PagingArguments.ofFirst 1).withAfter (Cursor.position (2 ^ 63 - 2)).encode) = .ok q ∧
      ∃ limit, q.fetch.statement.limit = some limit ∧ Bindable limit ∧
        Bindable q.fetch.statement.offset := by
  intro c
  have hpage : Page.ofArguments
      ((PagingArguments.ofFirst 1).withAfter (Cursor.position (2 ^ 63 - 2)).encode) .standard
      = .ok (.forward 1 (some (.position (2 ^ 63 - 2)))) := ofArguments_after rfl (by decide)
  obtain ⟨q, hq⟩ := exists_page_log hpage rfl
  obtain ⟨page, limit, hargs, hlimit, -, -, -, hoffset, hmax, -⟩ := page_bindable_iff hq
  obtain rfl := Except.ok.inj (hpage.symm.trans hargs)
  exact ⟨q, hq, limit, hlimit, hmax 100 rfl (by decide), hoffset.2 (by decide)⟩

/-- After the last position of 64 signed bits the offset is too large, and without a largest size a
limit can be. -/
theorem page_not_bindable :
    (∃ q, (⟨⟨[log]⟩, .empty, .standard⟩ : Compiler).page "log" .empty []
        ((PagingArguments.ofFirst 1).withAfter (Cursor.position (2 ^ 63 - 1)).encode) = .ok q ∧
      ¬ Bindable q.fetch.statement.offset) ∧
    ∃ q, (⟨⟨[log]⟩, .empty, ⟨10, none⟩⟩ : Compiler).page "log" .empty []
        (.ofFirst (2 ^ 63 - 1 : Nat)) = .ok q ∧
      ∃ limit, q.fetch.statement.limit = some limit ∧ ¬ Bindable limit := by
  constructor
  · have hpage : Page.ofArguments
        ((PagingArguments.ofFirst 1).withAfter (Cursor.position (2 ^ 63 - 1)).encode) .standard
        = .ok (.forward 1 (some (.position (2 ^ 63 - 1)))) := ofArguments_after rfl (by decide)
    obtain ⟨q, hq⟩ := exists_page_log hpage rfl
    obtain ⟨limit, -, -, hoffset⟩ := bounds_of_page hq hpage
    exact ⟨q, hq, mt hoffset.bindable_iff.1 (by decide)⟩
  · have hpage : Page.ofArguments (.ofFirst (2 ^ 63 - 1 : Nat)) ⟨10, none⟩
        = .ok (.forward (2 ^ 63 - 1) none) := PageRequest.ofArguments_of_none rfl false
    obtain ⟨q, hq⟩ := exists_page_log hpage rfl
    obtain ⟨limit, hlimit, hasked, -⟩ := bounds_of_page hq hpage
    exact ⟨q, hq, limit, hlimit, mt hasked.bindable_iff.1 (by decide)⟩

end Compiler
end RowQuery
