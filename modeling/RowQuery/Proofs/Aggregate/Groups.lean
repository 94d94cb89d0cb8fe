import Mathlib.Data.List.TakeWhile
import RowQuery.Aggregate.Compute
import RowQuery.Proofs.Json.Equality
import RowQuery.Proofs.SortOrder.Arrangement
/-!
Groups of rows.

Rows are grouped by sorting them and cutting the result wherever a row no longer agrees with the
first one of its group. In rows that ascend, those that agree with a row stand together, so the
groups are just the classes of rows with the same values in the grouping fields, in the order of
these values.
-/

namespace RowQuery.Aggregate

open SortOrder

/-! ### Cutting rows into groups -/

variable {sort : SortOrder} {rows : List Json.Row}

/-- Whether a row agrees with the first one of a group. -/
def agrees (sort : SortOrder) (first row : Json.Row) : Bool :=
  decide (compareRows sort first row = .eq)

theorem groupsFrom_eq (sort : SortOrder) (first : Json.Row) : ∀ rest group : List Json.Row,
    groupsFrom sort first group rest
      = (first, group.reverse ++ rest.takeWhile (agrees sort first))
        :: groups sort (rest.dropWhile (agrees sort first))
  | [], group => by rw [groupsFrom, List.takeWhile_nil, List.append_nil]; rfl
  | row :: rest, group => by
    rw [groupsFrom]
    split
    · rename_i hrow
      have hagrees : agrees sort first row = true := decide_eq_true hrow
      rw [groupsFrom_eq sort first rest, List.reverse_cons, List.append_assoc,
        List.takeWhile_cons_of_pos hagrees, List.dropWhile_cons_of_pos hagrees]
      rfl
    · rename_i hrow
      have hagrees : ¬agrees sort first row = true := fun h => hrow (of_decide_eq_true h)
      rw [List.takeWhile_cons_of_neg hagrees, List.dropWhile_cons_of_neg hagrees, List.append_nil]
      rfl

theorem groups_cons (row : Json.Row) (rest : List Json.Row) :
    groups sort (row :: rest) = (row, row :: rest.takeWhile (agrees sort row))
      :: groups sort (rest.dropWhile (agrees sort row)) :=
  groupsFrom_eq sort row rest [row]

/-- What makes groups the classes of some rows: their first rows ascend, each holds the rows that
agree with its first one, and each row agrees with one of these. -/
structure Partitions (sort : SortOrder) (rows : List Json.Row)
    (gs : List (Json.Row × List Json.Row)) : Prop where
  ascending : gs.Pairwise fun g h => compareRows sort g.1 h.1 = .lt
  rows_eq : ∀ g ∈ gs, g.2 = rows.filter (agrees sort g.1)
  complete : ∀ row ∈ rows, ∃ g ∈ gs, agrees sort g.1 row = true
  first_mem : ∀ g ∈ gs, g.1 ∈ rows

/-- In rows that ascend, all that come behind those agreeing with the first row come after it. -/
theorem lt_of_mem_dropWhile {row y : Json.Row} {rest : List Json.Row}
    (hk : HasKinds sort (row :: rest)) (h : Ascends sort (row :: rest))
    (hy : y ∈ rest.dropWhile (agrees sort row)) : compareRows sort row y = .lt := by
  obtain ⟨hrow, hrest⟩ := List.pairwise_cons.1 h
  induction rest with
  | nil => cases hy
  | cons x rest ih =>
    obtain ⟨hx, hrest'⟩ := List.pairwise_cons.1 hrest
    by_cases hagrees : agrees sort row x = true
    · rw [List.dropWhile_cons_of_pos hagrees] at hy
      have hsub : row :: rest ⊆ row :: x :: rest :=
        List.cons_subset_cons row (List.subset_cons_self x rest)
      exact ih (hk.subset hsub) (h.sublist ((List.sublist_cons_self x rest).cons_cons row)) hy
        (fun z hz => hrow z (List.mem_cons_of_mem x hz)) hrest'
    · rw [List.dropWhile_cons_of_neg hagrees] at hy
      have hlt : compareRows sort row x = .lt := by
        cases hrx : compareRows sort row x with
        | lt => rfl
        | eq => exact absurd (decide_eq_true hrx) hagrees
        | gt => exact absurd hrx (hrow x (List.mem_cons_self ..))
      rcases List.mem_cons.1 hy with rfl | hy
      · exact hlt
      · cases hxy : compareRows sort x y with
        | lt => exact hk.lt_trans (by simp) (by simp) (by simp [hy]) hlt hxy
        | eq => rwa [← ((compareRows_eq_iff (hk.subset (by simp [hy]))).1 hxy).compareRows_eq row]
        | gt => exact absurd hxy (hx y hy)

/-! ### The classes of rows -/

section
variable {row : Json.Row} {same others : List Json.Row}

/-- No row that comes after another one agrees with it. -/
theorem filter_agrees_of_lt (h : ∀ y ∈ others, compareRows sort row y = .lt) :
    others.filter (agrees sort row) = [] := by
  refine List.filter_eq_nil_iff.2 fun y hy hagrees => ?_
  rw [agrees, h y hy] at hagrees
  cases hagrees

/-- No row of a class agrees with a row that comes after the class. -/
theorem filter_agrees_of_class {first : Json.Row} (hk : HasKinds sort (first :: row :: same))
    (hsame : ∀ y ∈ row :: same, agrees sort row y = true)
    (hlt : compareRows sort row first = .lt) : (row :: same).filter (agrees sort first) = [] := by
  refine List.filter_eq_nil_iff.2 fun y hy hagrees => ?_
  have hsub : [first, y] ⊆ first :: row :: same :=
    List.cons_subset_cons first (List.cons_subset.2 ⟨hy, List.nil_subset _⟩)
  have hfirst : AgreeOn sort first y :=
    (compareRows_eq_iff (hk.subset hsub)).1 (of_decide_eq_true hagrees)
  have hrow : compareRows sort row y = .eq := of_decide_eq_true (hsame y hy)
  rw [← hfirst.compareRows_eq row, hlt] at hrow
  cases hrow

/-- A class and the classes of the rows that come after it. -/
theorem Partitions.cons {gs : List (Json.Row × List Json.Row)}
    (hk : HasKinds sort (row :: same ++ others))
    (hsame : ∀ y ∈ row :: same, agrees sort row y = true)
    (hlt : ∀ y ∈ others, compareRows sort row y = .lt) (h : Partitions sort others gs) :
    Partitions sort (row :: same ++ others) ((row, row :: same) :: gs) where
  ascending := List.pairwise_cons.2 ⟨fun g hg => hlt g.1 (h.first_mem g hg), h.ascending⟩
  rows_eq := by
    refine List.forall_mem_cons.2 ⟨?_, fun g hg => ?_⟩
    · rw [List.filter_append, List.filter_eq_self.2 hsame, filter_agrees_of_lt hlt,
        List.append_nil]
    · have hsub : g.1 :: row :: same ⊆ row :: same ++ others :=
        List.cons_subset.2 ⟨List.mem_append_right _ (h.first_mem g hg),
          List.subset_append_left _ _⟩
      rw [List.filter_append,
        filter_agrees_of_class (hk.subset hsub) hsame (hlt g.1 (h.first_mem g hg)),
        List.nil_append]
      exact h.rows_eq g hg
  complete y hy := by
    rcases List.mem_append.1 hy with hy | hy
    · exact ⟨_, List.mem_cons_self .., hsame y hy⟩
    · obtain ⟨g, hg, hagrees⟩ := h.complete y hy
      exact ⟨g, List.mem_cons_of_mem _ hg, hagrees⟩
  first_mem := List.forall_mem_cons.2 ⟨List.mem_cons_self ..,
    fun g hg => List.mem_append_right _ (h.first_mem g hg)⟩

end

/-- Rows that ascend are cut into their classes. -/
theorem partitions_groups : ∀ {rows : List Json.Row}, HasKinds sort rows → Ascends sort rows →
    Partitions sort rows (groups sort rows)
  | [], _, _ => ⟨List.Pairwise.nil, List.forall_mem_nil _, List.forall_mem_nil _,
      List.forall_mem_nil _⟩
  | row :: rest, hk, h => by
    have hothers : (rest.dropWhile (agrees sort row)).Sublist (row :: rest) :=
      (List.dropWhile_sublist _).trans (List.sublist_cons_self row rest)
    have hsame : ∀ y ∈ row :: rest.takeWhile (agrees sort row), agrees sort row y = true := by
      refine List.forall_mem_cons.2 ⟨?_, fun y hy => List.mem_takeWhile_imp hy⟩
      exact decide_eq_true ((compareRows_eq_iff (hk.subset (by simp))).2 fun _ _ => rfl)
    have hrows : row :: rest.takeWhile (agrees sort row) ++ rest.dropWhile (agrees sort row)
        = row :: rest := congrArg (row :: ·) List.takeWhile_append_dropWhile
    have hclasses := Partitions.cons (hrows ▸ hk) hsame
      (fun y hy => lt_of_mem_dropWhile hk h hy)
      (partitions_groups (hk.subset hothers.subset) (h.sublist hothers))
    rwa [hrows, ← groups_cons] at hclasses
termination_by rows => rows.length
decreasing_by
  exact Nat.lt_succ_of_le (List.length_dropWhile_le _ _)

end RowQuery.Aggregate
