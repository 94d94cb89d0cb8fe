import Mathlib.Algebra.Order.BigOperators.Group.List
import Mathlib.Data.List.Infix
import RowQuery.Proofs.Aggregate.Partition
/-!
Exact sums.

Integers are added from left to right, and the sum is exact just if every total on the way is an
integer of 64 signed bits: a sum that has 64 bits itself may be lost on the way. Main statement: the
sum of a column of integers is exact in every order of the rows just if the positive ones and the
negative ones have sums of 64 bits, and in some order as soon as all of them together have one.
-/

namespace RowQuery.Aggregate

open SortOrder
open Json (fitsInt64)

/-! ### Totals on the way -/

/-- From a start on, the total of some integers has 64 signed bits wherever one stops. -/
def TotalsFit (start : Int) (xs : List Int) : Prop :=
  ∀ p, p <+: xs → fitsInt64 (start + p.sum) = true

instance (start : Int) (xs : List Int) : Decidable (TotalsFit start xs) :=
  decidable_of_iff (∀ p ∈ xs.inits, fitsInt64 (start + p.sum) = true) <| by
    simp only [List.mem_inits, TotalsFit]

theorem fitsInt64_iff {i : Int} :
    fitsInt64 i = true ↔ Json.minInt64 ≤ i ∧ i ≤ Json.maxInt64 := by
  rw [fitsInt64, Bool.and_eq_true, decide_eq_true_eq, decide_eq_true_eq]

/-- Numbers between two of 64 bits have 64 bits. -/
theorem fitsInt64_between {i j k : Int} (hi : fitsInt64 i = true) (hk : fitsInt64 k = true)
    (hij : i ≤ j) (hjk : j ≤ k) : fitsInt64 j = true := by
  rw [fitsInt64_iff] at *
  omega

/-- The totals over a list are those over its tail, from the sum with its head on. -/
theorem totalsFit_cons {i start : Int} {rest : List Int} (h : fitsInt64 start = true) :
    TotalsFit start (i :: rest) ↔ TotalsFit (start + i) rest := by
  refine ⟨fun hp p hprefix => ?_, fun hp p hprefix => ?_⟩
  · have hfit := hp (i :: p) (List.cons_prefix_cons.2 ⟨rfl, hprefix⟩)
    rwa [List.sum_cons, ← Int.add_assoc] at hfit
  · rcases List.prefix_cons_iff.1 hprefix with rfl | ⟨p, rfl, hrest⟩
    · rwa [List.sum_nil, Int.add_zero]
    · rw [List.sum_cons, ← Int.add_assoc]
      exact hp p hrest

theorem TotalsFit.start {start : Int} {xs : List Int} (h : TotalsFit start xs) :
    fitsInt64 start = true := by
  have hstart := h [] (List.nil_prefix ..)
  rwa [List.sum_nil, Int.add_zero] at hstart

theorem totalsFit_nil {start : Int} (h : fitsInt64 start = true) : TotalsFit start [] := by
  intro p hp
  obtain rfl := List.prefix_nil.1 hp
  rwa [List.sum_nil, Int.add_zero]

theorem intSum?_eq_some_iff {xs : List Int} {start total : Int} (h : fitsInt64 start = true) :
    intSum? start xs = some total ↔ TotalsFit start xs ∧ start + xs.sum = total := by
  induction xs generalizing start with
  | nil =>
    rw [intSum?, Option.some.injEq, List.sum_nil, Int.add_zero]
    exact (and_iff_right (totalsFit_nil h)).symm
  | cons i rest ih =>
    rw [intSum?, totalsFit_cons h, List.sum_cons, ← Int.add_assoc]
    split
    · next hfit => exact ih hfit
    · next hfit => exact iff_of_false (fun h => nomatch h) fun hp => hfit hp.1.start

theorem mapM_int64? {xs : List Int} (hxs : ∀ i ∈ xs, fitsInt64 i = true) :
    (xs.map Json.Value.int).mapM Json.Value.int64? = some xs := by
  induction xs with
  | nil => rfl
  | cons i rest ih =>
    obtain ⟨hi, hrest⟩ := List.forall_mem_cons.1 hxs
    rw [List.map_cons, List.mapM_cons, Json.Value.int64?_eq_some_iff.2 ⟨rfl, hi⟩, ih hrest]
    rfl

theorem floatValue_ne_int (x : Option Binary64) (i : Int) : floatValue x ≠ .int i := by
  cases x with
  | none => exact Json.Value.noConfusion
  | some x =>
    intro h
    cases h

/-- The sum of integers is exact just if every total on the way is. -/
theorem sum_eq_int_iff {xs : List Int} {total : Int} (hxs : ∀ i ∈ xs, fitsInt64 i = true)
    (hne : xs ≠ []) :
    Aggregate.sum (xs.map .int) = .int total ↔ TotalsFit 0 xs ∧ xs.sum = total := by
  have hiff := @intSum?_eq_some_iff xs 0 total (by decide)
  rw [Int.zero_add] at hiff
  rw [← hiff, Aggregate.sum, if_neg (by simpa using hne), mapM_int64? hxs,
    Option.bind_some]
  cases intSum? 0 xs with
  | some found => simp [Json.Value.int]
  | none => exact iff_of_false (floatValue_ne_int _ _) (fun h => nomatch h)

theorem binary64?_int (i : Int) :
    (Json.Value.binary64? ∘ Json.Value.int) i = Binary64.ofInt? i := by
  rw [Function.comp_apply, Json.Value.int, Json.Value.binary64?, Json.Number.binary64?]

/-- Integers with a total that leaves the 64 bits are added as floats. -/
theorem sum_eq_floatValue {xs : List Int} (hxs : ∀ i ∈ xs, fitsInt64 i = true) (hne : xs ≠ [])
    (h : ¬TotalsFit 0 xs) :
    Aggregate.sum (xs.map .int) = floatValue (floatTotal? (xs.filterMap Binary64.ofInt?)) := by
  have hnone : intSum? 0 xs = none := by
    refine Option.eq_none_iff_forall_ne_some.2 fun total htotal => h ?_
    exact ((intSum?_eq_some_iff (by decide)).1 htotal).1
  rw [Aggregate.sum, if_neg (by simpa using hne), mapM_int64? hxs, Option.bind_some, hnone,
    List.filterMap_map, List.filterMap_congr fun i _ => binary64?_int i]

/-! ### Totals in every order and in some order -/

/-- The sum of the integers above zero. -/
def positiveSum (xs : List Int) : Int := (xs.filter (0 < ·)).sum

/-- The sum of the integers below zero. -/
def negativeSum (xs : List Int) : Int := (xs.filter (· < 0)).sum

theorem sum_between {xs p : List Int} (h : p.Sublist xs) :
    negativeSum xs ≤ p.sum ∧ p.sum ≤ positiveSum xs := by
  simp only [negativeSum, positiveSum]
  induction h with
  | slnil => exact ⟨Int.le_refl 0, Int.le_refl 0⟩
  | cons i _ ih | cons_cons i _ ih =>
    simp only [List.filter_cons, decide_eq_true_eq, apply_ite List.sum, List.sum_cons]
    split <;> split <;> omega

/-- In every order all totals have 64 bits, just if the two sums that only go up or down have. -/
theorem forall_perm_totalsFit_iff {xs : List Int} :
    (∀ ys, ys.Perm xs → TotalsFit 0 ys) ↔
      fitsInt64 (negativeSum xs) = true ∧ fitsInt64 (positiveSum xs) = true := by
  refine ⟨fun h => ?_, fun ⟨hneg, hpos⟩ ys hperm p hprefix => ?_⟩
  · have hfirst : ∀ q : Int → Bool, fitsInt64 (xs.filter q).sum = true := by
      intro q
      rw [← Int.zero_add (xs.filter q).sum]
      exact h _ (List.filter_append_perm q xs) _ (List.prefix_append ..)
    exact ⟨hfirst _, hfirst _⟩
  · obtain ⟨hle, hge⟩ := sum_between hprefix.sublist
    rw [Int.zero_add]
    refine fitsInt64_between hneg hpos ?_ ?_
    · rwa [negativeSum, ← (hperm.filter _).sum_eq]
    · rwa [positiveSum, ← (hperm.filter _).sum_eq]

/-- Integers on one side of zero have no sum on the other. -/
theorem positiveSum_eq_zero {xs : List Int} (h : ∀ i ∈ xs, i ≤ 0) : positiveSum xs = 0 := by
  rw [positiveSum, List.filter_eq_nil_iff.2, List.sum_nil]
  exact fun i hi => by simpa using h i hi

theorem negativeSum_eq_zero {xs : List Int} (h : ∀ i ∈ xs, 0 ≤ i) : negativeSum xs = 0 := by
  rw [negativeSum, List.filter_eq_nil_iff.2, List.sum_nil]
  exact fun i hi => by simpa using h i hi

/-- On the way to a total of 64 bits, one of the integers that are left can be added next. -/
theorem exists_next {xs : List Int} {start : Int} (hne : xs ≠ []) (hstart : fitsInt64 start = true)
    (hxs : ∀ i ∈ xs, fitsInt64 i = true) (hsum : fitsInt64 (start + xs.sum) = true) :
    ∃ i ∈ xs, fitsInt64 (start + i) = true := by
  by_contra hnone
  obtain ⟨i, hi⟩ := List.exists_mem_of_ne_nil xs hne
  have hnot : ∀ j ∈ xs, ¬fitsInt64 (start + j) = true := fun j hj hfit => hnone ⟨j, hj, hfit⟩
  have hout := hnot i hi
  have hperm : xs.sum = i + (xs.erase i).sum := by
    rw [(List.perm_cons_erase hi).sum_eq, List.sum_cons]
  obtain ⟨hle, hge⟩ := sum_between (List.erase_sublist (a := i) (l := xs))
  have hmin : Json.minInt64 < 0 := by decide
  have hmax : 0 < Json.maxInt64 := by decide
  simp only [fitsInt64_iff] at *
  -- all that are left lead out of the range, on the side on which the total so far lies
  rcases lt_or_ge start 0 with hneg | hpos
  · have hdown : ∀ j ∈ xs, j ≤ 0 := fun j hj => by
      have hfit := hxs j hj
      have hout := hnot j hj
      omega
    rw [positiveSum_eq_zero hdown] at hge
    have hi' := hdown i hi
    omega
  · have hup : ∀ j ∈ xs, 0 ≤ j := fun j hj => by
      have hfit := hxs j hj
      have hout := hnot j hj
      omega
    rw [negativeSum_eq_zero hup] at hle
    have hi' := hup i hi
    omega

/-- Integers with a total of 64 bits have an order in which all totals have. -/
theorem exists_perm_totalsFit {xs : List Int} {start : Int} (hstart : fitsInt64 start = true)
    (hxs : ∀ i ∈ xs, fitsInt64 i = true) (hsum : fitsInt64 (start + xs.sum) = true) :
    ∃ ys : List Int, ys.Perm xs ∧ TotalsFit start ys := by
  induction hlen : xs.length generalizing xs start with
  | zero =>
    obtain rfl := List.eq_nil_of_length_eq_zero hlen
    exact ⟨[], .refl [], totalsFit_nil hstart⟩
  | succ n ih =>
    obtain ⟨i, hi, hfit⟩ := exists_next (List.ne_nil_of_length_eq_add_one hlen) hstart hxs hsum
    have hperm := List.perm_cons_erase hi
    rw [hperm.sum_eq, List.sum_cons, ← Int.add_assoc] at hsum
    have herase : (xs.erase i).length = n := by
      rw [List.length_erase_of_mem hi, hlen, Nat.add_sub_cancel]
    obtain ⟨ys, hys, htotals⟩ := ih hfit (fun j hj => hxs j (List.mem_of_mem_erase hj)) hsum herase
    exact ⟨i :: ys, (hys.cons i).trans hperm.symm, (totalsFit_cons hstart).2 htotals⟩

/-! ### The sum of a column -/

section
variable {rows rows' : List Json.Row} {field : String}

/-- The integers of a field in some rows. -/
def intsAt (rows : List Json.Row) (field : String) : List Int :=
  rows.filterMap fun row => (valueAt row field).int64?

/-- The sum of a field in some rows. -/
def sumAt (rows : List Json.Row) (field : String) : Json.Value :=
  Function.sum.apply (valuesAt rows field)

/-- A field holds null or integers of 64 signed bits in some rows. -/
def HoldsInts (rows : List Json.Row) (field : String) : Prop :=
  ∀ row ∈ rows, SortKind.integer.Admits (valueAt row field)

theorem HoldsInts.perm (h : HoldsInts rows field) (hperm : rows'.Perm rows) :
    HoldsInts rows' field :=
  fun row hrow => h row (hperm.mem_iff.1 hrow)

theorem fitsInt64_of_mem_intsAt {i : Int} (h : i ∈ intsAt rows field) : fitsInt64 i = true := by
  obtain ⟨row, -, hi⟩ := List.mem_filterMap.1 h
  exact (Json.Value.int64?_eq_some_iff.1 hi).2

theorem HoldsInts.valuesAt_eq_map (h : HoldsInts rows field) :
    valuesAt rows field = (intsAt rows field).map .int := by
  rw [valuesAt_eq, intsAt]
  induction rows with
  | nil => rfl
  | cons row rest ih =>
    obtain ⟨hrow, hrest⟩ := List.forall_mem_cons.1 h
    rw [List.map_cons, List.filter_cons, List.filterMap_cons, ih hrest]
    rcases hrow with hnull | hint
    · rw [hnull]
      rfl
    · obtain ⟨i, hi, hfit⟩ := SortKind.exists_int_of_ofValue? hint
      rw [Json.Value.int64?_eq_some_iff.2 ⟨hi, hfit⟩, hi]
      rfl

theorem HoldsInts.sumAt_eq (h : HoldsInts rows field) :
    sumAt rows field = Aggregate.sum ((intsAt rows field).map .int) := by
  rw [sumAt, h.valuesAt_eq_map]
  rfl

/-- Any order of the images of some things is that of their images in some order. -/
theorem exists_perm_filterMap {α β : Type} {f : α → Option β} {ys : List β} {xs : List α}
    (h : ys.Perm (xs.filterMap f)) : ∃ xs' : List α, xs'.Perm xs ∧ xs'.filterMap f = ys := by
  induction ys generalizing xs with
  | nil => exact ⟨xs, .refl xs, h.nil_eq.symm⟩
  | cons y ys ih =>
    obtain ⟨x, hx, hy⟩ := List.mem_filterMap.1 (h.mem_iff.1 (List.mem_cons_self ..))
    obtain ⟨before, behind, rfl⟩ := List.append_of_mem hx
    rw [List.filterMap_append, List.filterMap_cons, hy] at h
    have hys : ys.Perm ((before ++ behind).filterMap f) := by
      rw [List.filterMap_append]
      exact (h.trans List.perm_middle).cons_inv
    obtain ⟨xs', hperm, rfl⟩ := ih hys
    refine ⟨x :: xs', (hperm.cons x).trans List.perm_middle.symm, ?_⟩
    rw [List.filterMap_cons, hy]

/-- The sum of a column of integers is their sum just if every total on the way to it has 64 bits,
and a float otherwise. It does not depend on the order of the rows just if the integers above zero
and those below it have sums of 64 bits; some order makes every sum of 64 bits. -/
theorem sumAt_exact_iff (h : HoldsInts rows field) (hne : intsAt rows field ≠ []) :
    (∀ total, sumAt rows field = .int total ↔
      TotalsFit 0 (intsAt rows field) ∧ (intsAt rows field).sum = total) ∧
    (¬TotalsFit 0 (intsAt rows field) → sumAt rows field
      = floatValue (floatTotal? ((intsAt rows field).filterMap Binary64.ofInt?))) ∧
    ((∀ rows', rows'.Perm rows → sumAt rows' field = .int (intsAt rows field).sum) ↔
      fitsInt64 (negativeSum (intsAt rows field)) = true ∧
        fitsInt64 (positiveSum (intsAt rows field)) = true) ∧
    (fitsInt64 (intsAt rows field).sum = true →
      ∃ rows', rows'.Perm rows ∧ sumAt rows' field = .int (intsAt rows field).sum) := by
  have hfits : ∀ {rows'}, ∀ i ∈ intsAt rows' field, fitsInt64 i = true :=
    fun i => fitsInt64_of_mem_intsAt
  -- the sum over the rows in another order is that of the integers in the order of these rows
  have hsum : ∀ {rows'}, rows'.Perm rows →
      (sumAt rows' field = .int (intsAt rows field).sum ↔ TotalsFit 0 (intsAt rows' field)) := by
    intro rows' hperm
    have hints : (intsAt rows' field).Perm (intsAt rows field) := hperm.filterMap _
    have hne' : intsAt rows' field ≠ [] := by
      intro hnil
      rw [hnil] at hints
      exact hne hints.nil_eq.symm
    rw [(h.perm hperm).sumAt_eq, sum_eq_int_iff hfits hne']
    exact and_iff_left hints.sum_eq
  refine ⟨fun total => ?_, fun hnot => ?_, ?_, fun hfit => ?_⟩
  · rw [h.sumAt_eq, sum_eq_int_iff hfits hne]
  · rw [h.sumAt_eq, sum_eq_floatValue hfits hne hnot]
  · rw [← forall_perm_totalsFit_iff]
    refine ⟨fun hall ys hys => ?_, fun hall rows' hperm => ?_⟩
    · obtain ⟨rows', hperm, rfl⟩ := exists_perm_filterMap hys
      exact (hsum hperm).1 (hall rows' hperm)
    · exact (hsum hperm).2 (hall _ (hperm.filterMap _))
  · rw [← Int.zero_add (intsAt rows field).sum] at hfit
    obtain ⟨ys, hys, htotals⟩ := exists_perm_totalsFit (by decide) hfits hfit
    obtain ⟨rows', hperm, rfl⟩ := exists_perm_filterMap hys
    exact ⟨rows', hperm, (hsum hperm).2 htotals⟩

/-- From both ends of the 64 bits, in every order. -/
theorem sumAt_exact_iff_ends :
    let rows : List Json.Row := [[("n", .int Json.maxInt64)], [("n", .null)],
      [("n", .int Json.minInt64)], []]
    HoldsInts rows "n" ∧ intsAt rows "n" ≠ [] ∧
      ∀ rows', rows'.Perm rows → sumAt rows' "n" = .int (-1) := by
  intro rows
  have hints : HoldsInts rows "n" :=
    List.forall_mem_cons.2 ⟨.inr rfl, List.forall_mem_cons.2 ⟨.inl rfl,
      List.forall_mem_cons.2 ⟨.inr rfl, List.forall_mem_singleton.2 (.inl rfl)⟩⟩⟩
  have hne : intsAt rows "n" ≠ [] := by decide
  exact ⟨hints, hne, (sumAt_exact_iff hints hne).2.2.1.2 (by decide)⟩

/-- A sum of 64 bits is exact in one order of the rows and lost in another. -/
theorem sumAt_ne_in_some_order :
    let row (i : Int) : Json.Row := [("n", .int i)]
    let rows : List Json.Row := [row Json.maxInt64, row 1, row (-1)]
    let rows' : List Json.Row := [row 1, row (-1), row Json.maxInt64]
    HoldsInts rows "n" ∧ rows'.Perm rows ∧ (intsAt rows "n").sum = Json.maxInt64 ∧
      sumAt rows "n" ≠ .int Json.maxInt64 ∧ sumAt rows' "n" = .int Json.maxInt64 := by
  intro row rows rows'
  have hints : HoldsInts rows "n" :=
    List.forall_mem_cons.2 ⟨.inr rfl, List.forall_mem_cons.2 ⟨.inr rfl,
      List.forall_mem_singleton.2 (.inr rfl)⟩⟩
  have hperm : rows'.Perm rows :=
    @List.perm_append_comm _ [row 1, row (-1)] [row Json.maxInt64]
  refine ⟨hints, hperm, by decide, ?_, ?_⟩
  · rw [hints.sumAt_eq, ne_eq, sum_eq_int_iff (by decide) (by decide)]
    decide
  · rw [(hints.perm hperm).sumAt_eq, sum_eq_int_iff (by decide) (by decide)]
    decide

end
end RowQuery.Aggregate
