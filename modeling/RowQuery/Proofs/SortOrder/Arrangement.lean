import RowQuery.Proofs.Sorting.Insertion
import RowQuery.Proofs.SortOrder.Comparison
/-!
Rows that a sort puts in order.

Where each field of the sort holds values of one kind and no two rows agree in all of them, there is
one list of the rows in which each comes before all that follow it, and sorting makes it. So sorting
goes together with leaving rows out and with turning the sort round.
-/

namespace RowQuery.SortOrder

variable {sort : SortOrder} {rows : List Json.Row}

/-- No two of some rows agree in all fields of a sort. -/
def Separates (sort : SortOrder) (rows : List Json.Row) : Prop :=
  rows.Pairwise fun x y => ¬AgreeOn sort x y

/-- Each of some rows comes before all that follow it. -/
def InOrder (sort : SortOrder) (rows : List Json.Row) : Prop :=
  rows.Pairwise fun x y => compareRows sort x y = .lt

/-- None of some rows comes after one that follows it. -/
def Ascends (sort : SortOrder) (rows : List Json.Row) : Prop :=
  rows.Pairwise fun x y => compareRows sort x y ≠ .gt

theorem isUniform_of_hasKinds (h : HasKinds sort rows) : isUniform sort rows = true := by
  rw [isUniform, List.all_eq_true]
  intro s hs
  obtain ⟨kind, -, hrows⟩ := h s hs
  have hkinds : ∀ k ∈ rows.filterMap fun row => SortKind.ofValue? (valueAt row s.field),
      k = kind := by
    intro k hk
    obtain ⟨row, hrow, hk⟩ := List.mem_filterMap.1 hk
    rcases hrows row hrow with hnull | hkind
    · rw [hnull] at hk
      cases hk
    · exact Option.some.inj (hk.symm.trans hkind)
  rw [isUniformAt]
  split
  · rfl
  · rename_i first rest hlist
    rw [hlist] at hkinds
    rw [List.all_eq_true]
    intro k hk
    rw [beq_iff_eq, hkinds k (List.mem_cons_of_mem _ hk), hkinds first (List.mem_cons_self ..)]

theorem arrange?_of_hasKinds (h : HasKinds sort rows) (blocks : Sorting.Blocks) :
    arrange? blocks sort rows = some (sortRows sort rows) := by
  rw [arrange?, if_pos (isUniform_of_hasKinds h)]

theorem perm_sortRows (sort : SortOrder) (rows : List Json.Row) :
    (sortRows sort rows).Perm rows :=
  Sorting.perm_insertion rows

theorem decides_precedes {r : Json.Row → Json.Row → Prop} {x y : Json.Row}
    (hlt : compareRows sort x y = .lt → r x y) (hnot : compareRows sort x y ≠ .lt → r y x) :
    Sorting.Decides (precedes sort) r x y := by
  rw [Sorting.Decides]
  split
  · rename_i h
    exact hlt (of_decide_eq_true h)
  · rename_i h
    exact hnot fun hlt => h (decide_eq_true hlt)

theorem inOrder_sortRows (hk : HasKinds sort rows) (hd : Separates sort rows) :
    InOrder sort (sortRows sort rows) := by
  refine Sorting.insertion_pairwise (fun x hx y hy z hz => hk.lt_trans hx hy hz)
    (hd.imp_of_mem ?_)
  intro x y hx hy hne
  have hkxy : HasKinds sort [x, y] := hk.subset (by simp [hx, hy])
  refine decides_precedes id fun hlt => ?_
  rw [compareRows_swap, ne_eq, Ordering.swap_eq_lt] at hlt
  cases hxy : compareRows sort x y with
  | lt => rfl
  | eq => exact absurd ((compareRows_eq_iff hkxy).1 hxy) hne
  | gt => exact absurd hxy hlt

/-- Sorting puts no row behind one that comes after it. -/
theorem ascends_sortRows (hk : HasKinds sort rows) : Ascends sort (sortRows sort rows) := by
  refine Sorting.insertion_pairwise (fun x hx y hy z hz => (hk.orders hx hy hz).ne_gt)
    (List.pairwise_iff_getElem.2 fun i j hi hj _ => ?_)
  refine decides_precedes (fun hlt => by simp [hlt]) fun hlt => ?_
  rwa [compareRows_swap, ne_eq, Ordering.swap_eq_lt] at hlt

theorem InOrder.separates (hk : HasKinds sort rows) (h : InOrder sort rows) :
    Separates sort rows := by
  refine h.imp_of_mem fun {x y} hx hy hlt hagree => ?_
  rw [(compareRows_eq_iff (hk.subset (by simp [hx, hy]))).2 hagree] at hlt
  cases hlt

/-- Only one list of the rows is in order. -/
theorem eq_sortRows {sorted : List Json.Row} (hk : HasKinds sort rows) (hd : Separates sort rows)
    (hperm : sorted.Perm rows) (hsorted : InOrder sort sorted) : sorted = sortRows sort rows := by
  refine List.Perm.eq_of_pairwise ?_ hsorted (inOrder_sortRows hk hd)
    (hperm.trans (perm_sortRows sort rows).symm)
  intro x y hx hy hxy hyx
  rw [compareRows_swap, hxy] at hyx
  cases hyx

/-- Rows may be left out before or after sorting. -/
theorem sortRows_filter (hk : HasKinds sort rows) (hd : Separates sort rows)
    (p : Json.Row → Bool) : sortRows sort (rows.filter p) = (sortRows sort rows).filter p := by
  have hsub : rows.filter p ⊆ rows := fun _ hrow => (List.mem_filter.1 hrow).1
  refine (eq_sortRows (hk.subset hsub) (hd.filter p) ?_ ?_).symm
  · exact (perm_sortRows sort rows).filter p
  · exact (inOrder_sortRows hk hd).filter p

/-- The reversed sort makes the reversed list. -/
theorem sortRows_inverted (hk : HasKinds sort rows) (hd : Separates sort rows) :
    sortRows sort.inverted rows = (sortRows sort rows).reverse := by
  refine (eq_sortRows (hasKinds_inverted.2 hk) ?_ ?_ ?_).symm
  · refine hd.imp fun hne hagree => hne fun s hs => ?_
    exact hagree s.inverted (List.mem_map_of_mem hs)
  · exact (List.reverse_perm _).trans (perm_sortRows sort rows)
  · rw [InOrder, List.pairwise_reverse]
    refine (inOrder_sortRows hk hd).imp fun {x y} hxy => ?_
    rw [compareRows_inverted, compareRows_swap, Ordering.swap_swap, hxy]

/-! ### Rows beyond a row -/

section
variable {α : Type} {items : List α} {p : α → Bool} {m : Nat}

/-- What holds of the items from some place on fails before it and holds behind it. -/
theorem forall_take_and_drop (h : ∀ i, (hi : i < items.length) → p items[i] = decide (m ≤ i)) :
    (∀ x ∈ items.take m, p x = false) ∧ ∀ x ∈ items.drop m, p x = true := by
  constructor
  · intro x hx
    obtain ⟨i, hi, rfl⟩ := List.getElem_of_mem hx
    rw [List.length_take] at hi
    rw [List.getElem_take, h, decide_eq_false (by omega)]
  · intro x hx
    obtain ⟨i, hi, rfl⟩ := List.getElem_of_mem hx
    rw [List.getElem_drop, h, decide_eq_true (Nat.le_add_right m i)]

theorem filter_eq_drop (h : ∀ i, (hi : i < items.length) → p items[i] = decide (m ≤ i)) :
    items.filter p = items.drop m := by
  obtain ⟨htake, hdrop⟩ := forall_take_and_drop h
  have hbefore : (items.take m).filter p = [] :=
    List.filter_eq_nil_iff.2 fun x hx => by rw [htake x hx]; exact Bool.false_ne_true
  calc items.filter p = (items.take m ++ items.drop m).filter p := by rw [List.take_append_drop]
    _ = items.drop m := by
      rw [List.filter_append, hbefore, List.filter_eq_self.2 hdrop, List.nil_append]

theorem filter_eq_take (h : ∀ i, (hi : i < items.length) → p items[i] = decide (i < m)) :
    items.filter p = items.take m := by
  have hnot : ∀ i, (hi : i < items.length) → (!p items[i]) = decide (m ≤ i) := by
    intro i hi
    rw [h i hi, ← decide_not, decide_eq_decide, Nat.not_lt]
  obtain ⟨htake, hdrop⟩ := forall_take_and_drop (p := fun x => !p x) hnot
  have hbefore : (items.take m).filter p = items.take m :=
    List.filter_eq_self.2 fun x hx => by simpa using htake x hx
  have hbehind : (items.drop m).filter p = [] :=
    List.filter_eq_nil_iff.2 fun x hx => by simpa using hdrop x hx
  calc items.filter p = (items.take m ++ items.drop m).filter p := by rw [List.take_append_drop]
    _ = items.take m := by rw [List.filter_append, hbefore, hbehind, List.append_nil]

end

/-- Rows in order compare as their places do. -/
theorem compareRows_getElem (h : InOrder sort rows) {i j : Nat} (hi : i < rows.length)
    (hj : j < rows.length) : compareRows sort rows[i] rows[j] = compare i j := by
  have hlt := List.pairwise_iff_getElem.1 h
  rcases Nat.lt_trichotomy i j with hij | rfl | hij
  · rw [hlt i j hi hj hij, Nat.compare_eq_lt.2 hij]
  · rw [Nat.compare_eq_eq.2 rfl, compareRows_self]
  · rw [compareRows_swap, hlt j i hj hi hij, Nat.compare_eq_gt.2 hij]
    rfl

/-- The rows after a row of a list in order. -/
theorem filter_after (h : InOrder sort rows) {k : Nat} (hlt : k < rows.length) :
    rows.filter (fun row => decide (compareRows sort rows[k] row = .lt)) = rows.drop (k + 1) := by
  refine filter_eq_drop fun i hi => ?_
  rw [compareRows_getElem h hlt hi, Bool.eq_iff_iff, decide_eq_true_eq, decide_eq_true_eq,
    Nat.compare_eq_lt, Nat.succ_le_iff]

/-- The rows before a row of a list in order. -/
theorem filter_before (h : InOrder sort rows) {k : Nat} (hlt : k < rows.length) :
    rows.filter (fun row => decide (compareRows sort.inverted rows[k] row = .lt))
      = rows.take k := by
  refine filter_eq_take fun i hi => ?_
  rw [compareRows_inverted, compareRows_getElem h hlt hi, Bool.eq_iff_iff, decide_eq_true_eq,
    decide_eq_true_eq, Ordering.swap_eq_lt, Nat.compare_eq_gt]

end RowQuery.SortOrder
