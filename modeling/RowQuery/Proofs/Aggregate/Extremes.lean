import RowQuery.Aggregate.Compute
import RowQuery.Proofs.SortOrder.Comparison
/-!
Least and greatest values.

Values of one kind have an order of their own: that of the integers, of the texts, or false before
true. Null stands behind them all. Rows are sorted by it, field after field, and by going through
the values once the least and the greatest one are found.
-/

namespace RowQuery

open SortOrder

/-! ### The order of values -/

/-- A value stands before another one of its kind, or before null. -/
inductive Json.Value.Before : Json.Value → Json.Value → Prop where
  | int {i j : Int} (h : i < j) : Before (.int i) (.int j)
  | str {t u : String} (h : t < u) : Before (.str t) (.str u)
  | bool : Before (.bool false) (.bool true)
  | null {v : Json.Value} (h : v ≠ .null) : Before v .null

open Json.Value (Before)

variable {kind : SortKind} {a b c : Json.Value}

theorem Json.Value.Before.asymm (hab : Before a b) : ¬Before b a := by
  intro hba
  cases hab with
  | int h => cases hba with | int h' => exact Int.lt_asymm h h'
  | str h => cases hba with | str h' => exact String.lt_asymm h h'
  | bool => cases hba
  | null h => cases hba with | null h' => exact h' rfl

instance : Std.Asymm Before := ⟨fun _ _ h => h.asymm⟩

theorem Json.Value.Before.trans (hab : Before a b) (hbc : Before b c) : Before a c := by
  cases hab with
  | int h =>
    cases hbc with
    | int h' => exact .int (Int.lt_trans h h')
    | null => exact .null nofun
  | str h =>
    cases hbc with
    | str h' => exact .str (String.lt_trans h h')
    | null => exact .null nofun
  | bool => cases hbc with | null => exact .null nofun
  | null => cases hbc with | null h' => exact absurd rfl h'

theorem compare?_eq_lt_iff (hk : kind.IsExact) (ha : SortKind.ofValue? a = some kind)
    (hb : SortKind.ofValue? b = some kind) : a.compare? b = some .lt ↔ Before a b := by
  cases kind with
  | integer =>
    obtain ⟨i, rfl, hi⟩ := SortKind.exists_int_of_ofValue? ha
    obtain ⟨j, rfl, hj⟩ := SortKind.exists_int_of_ofValue? hb
    simp only [Json.Value.compare?, Json.Number.compare?, Json.Number.int64?, hi, hj, if_true,
      Option.some.injEq, Int.compare_eq_lt]
    exact ⟨.int, fun h => by cases h; assumption⟩
  | text =>
    obtain ⟨t, rfl⟩ := SortKind.exists_str_of_ofValue? ha
    obtain ⟨u, rfl⟩ := SortKind.exists_str_of_ofValue? hb
    have hlt : compare t u = .lt ↔ t < u := compareOfLessAndEq_eq_lt
    rw [Json.Value.compare?, Option.some.injEq, hlt]
    exact ⟨.str, fun h => by cases h; assumption⟩
  | truth =>
    obtain ⟨x, rfl⟩ := SortKind.exists_bool_of_ofValue? ha
    obtain ⟨y, rfl⟩ := SortKind.exists_bool_of_ofValue? hb
    cases x <;> cases y <;> simp only [Json.Value.compare?, Option.some.injEq]
    · exact iff_of_false (by decide) fun h => by cases h
    · exact iff_of_true (by decide) .bool
    · exact iff_of_false (by decide) fun h => by cases h
    · exact iff_of_false (by decide) fun h => by cases h
  | float | collection => cases hk

/-- Of two values of a kind, the second stands before the first where they compare the other way. -/
theorem compare?_eq_gt_iff (hk : kind.IsExact) (ha : SortKind.ofValue? a = some kind)
    (hb : SortKind.ofValue? b = some kind) : a.compare? b = some .gt ↔ Before b a := by
  obtain ⟨α, _, _, _, key, hkey⟩ := hk.exists_key
  rw [← compare?_eq_lt_iff hk hb ha, (hkey a b ha hb).1, (hkey b a hb ha).1, Option.some.injEq,
    Option.some.injEq, Std.OrientedOrd.eq_swap, Ordering.swap_eq_gt]

theorem eq_or_before (hk : kind.IsExact) (ha : SortKind.ofValue? a = some kind)
    (hb : SortKind.ofValue? b = some kind) : a = b ∨ Before a b ∨ Before b a := by
  obtain ⟨α, _, _, _, key, hkey⟩ := hk.exists_key
  rw [← compare?_eq_lt_iff hk ha hb, ← compare?_eq_gt_iff hk ha hb, (hkey a b ha hb).1]
  cases hab : compare (key a) (key b) with
  | lt => exact .inr (.inl rfl)
  | eq => exact .inl ((hkey a b ha hb).2 (Std.LawfulEqOrd.eq_of_compare hab))
  | gt => exact .inr (.inr rfl)

theorem compareValues_asc_eq_lt_iff (field : String) (hk : kind.IsExact) (ha : kind.Admits a)
    (hb : kind.Admits b) : compareValues (.asc field) a b = .lt ↔ Before a b := by
  rcases ha with rfl | ha
  · refine iff_of_false ?_ (fun h => by cases h; contradiction)
    rcases hb with rfl | hb
    · exact Ordering.noConfusion
    · rw [compareValues_null_left (isNull_eq_false_of_ofValue? hb)]
      exact Ordering.noConfusion
  · have hnull : a ≠ .null := by
      rintro rfl
      cases ha
    rcases hb with rfl | hb
    · rw [compareValues_null_right (isNull_eq_false_of_ofValue? ha)]
      exact iff_of_true rfl (.null hnull)
    · rw [compareValues_of_isNull_eq_false (isNull_eq_false_of_ofValue? ha)
        (isNull_eq_false_of_ofValue? hb), valueOrder, ← compare?_eq_lt_iff hk ha hb]
      obtain ⟨α, _, _, _, key, hkey⟩ := hk.exists_key
      rw [(hkey a b ha hb).1, Option.getD_some, Option.some.injEq]
      rfl

/-- Rows are in ascending order just if the tuples of their values are. -/
theorem compareRows_asc_eq_lt_iff {x y : Json.Row} : ∀ {fields : List String},
    HasKinds (fields.map .asc) [x, y] → (compareRows (fields.map .asc) x y = .lt ↔
      List.Lex Before (fields.map (valueAt x)) (fields.map (valueAt y)))
  | [], _ => iff_of_false Ordering.noConfusion (fun h => nomatch h)
  | field :: fields, hkinds => by
    obtain ⟨kind, hk, hrows⟩ := hkinds (.asc field) (List.mem_cons_self ..)
    have hx := hrows x (by simp)
    have hy := hrows y (by simp)
    rw [List.map_cons, compareRows, Ordering.then_eq_lt, List.map_cons, List.map_cons,
      List.cons_lex_cons_iff, ← compareRows_asc_eq_lt_iff hkinds.tail]
    exact or_congr (compareValues_asc_eq_lt_iff field hk hx hy)
      (and_congr_left fun _ => compareValues_eq_iff hk hx hy)

/-! ### Extremes -/

namespace Aggregate

/-- The value is the first of some values under an order, or null if there are none. -/
def IsFirst (before : Json.Value → Json.Value → Prop) (values : List Json.Value)
    (v : Json.Value) : Prop :=
  (values = [] ∧ v = .null) ∨ (v ∈ values ∧ ∀ w ∈ values, w = v ∨ before v w)

variable {before : Json.Value → Json.Value → Prop} {values values' : List Json.Value}

theorem IsFirst.eq (hasymm : ∀ {a b}, before a b → ¬before b a) {v w : Json.Value}
    (hv : IsFirst before values v) (hw : IsFirst before values w) : v = w := by
  rcases hv with ⟨rfl, rfl⟩ | ⟨hv, hfirst⟩ <;> rcases hw with ⟨hnil, rfl⟩ | ⟨hw, hfirst'⟩
  · rfl
  · cases hw
  · subst hnil
    cases hv
  · rcases hfirst w hw with rfl | hvw
    · rfl
    · exact (hfirst' v hv).resolve_right (hasymm hvw)

theorem IsFirst.perm {v : Json.Value} (h : IsFirst before values v) (hperm : values.Perm values') :
    IsFirst before values' v := by
  rcases h with ⟨rfl, hv⟩ | ⟨hv, hfirst⟩
  · exact .inl ⟨hperm.nil_eq.symm, hv⟩
  · exact .inr ⟨hperm.mem_iff.1 hv, fun w hw => hfirst w (hperm.mem_iff.2 hw)⟩

/-- Going on with further values keeps the best so far unless one of them surpasses it. -/
theorem foldl_better {wanted : Ordering} (htrans : ∀ a b c, before a b → before b c → before a c)
    (hbetter : ∀ a ∈ values, ∀ b ∈ values, a.compare? b = some wanted ↔ before a b)
    (htotal : ∀ a ∈ values, ∀ b ∈ values, a = b ∨ before a b ∨ before b a) :
    ∀ {rest seen : List Json.Value} {best : Json.Value}, rest ⊆ values → seen ⊆ values →
      best ∈ seen → (∀ w ∈ seen, w = best ∨ before best w) →
      rest.foldl (better wanted) best ∈ rest ++ seen ∧
        ∀ w ∈ rest ++ seen, w = rest.foldl (better wanted) best
          ∨ before (rest.foldl (better wanted) best) w
  | [], _, _, _, _, hbest, hfirst => ⟨hbest, hfirst⟩
  | v :: rest, seen, best, hrest, hseen, hbest, hfirst => by
    obtain ⟨hv, hrest⟩ := List.cons_subset.1 hrest
    have hstep : better wanted best v ∈ v :: seen ∧
        ∀ w ∈ v :: seen, w = better wanted best v ∨ before (better wanted best v) w := by
      rw [better]
      split
      · rename_i hwanted
        have hvbest := (hbetter v hv best (hseen hbest)).1 hwanted
        refine ⟨List.mem_cons_self .., List.forall_mem_cons.2 ⟨.inl rfl, fun w hw => .inr ?_⟩⟩
        exact (hfirst w hw).elim (· ▸ hvbest) (htrans v best w hvbest)
      · rename_i hwanted
        rw [hbetter v hv best (hseen hbest)] at hwanted
        refine ⟨List.mem_cons_of_mem _ hbest, List.forall_mem_cons.2 ⟨?_, hfirst⟩⟩
        exact (htotal v hv best (hseen hbest)).imp_right fun h => h.resolve_left hwanted
    obtain ⟨hmem, hall⟩ := foldl_better htrans hbetter htotal hrest
      (List.cons_subset.2 ⟨hv, hseen⟩) hstep.1 hstep.2
    have hiff : ∀ w, w ∈ rest ++ v :: seen ↔ w ∈ v :: rest ++ seen := by simp [or_left_comm]
    exact ⟨(hiff _).1 hmem, fun w hw => hall w ((hiff w).2 hw)⟩

theorem isFirst_extreme {wanted : Ordering}
    (htrans : ∀ a b c, before a b → before b c → before a c)
    (hbetter : ∀ a ∈ values, ∀ b ∈ values, a.compare? b = some wanted ↔ before a b)
    (htotal : ∀ a ∈ values, ∀ b ∈ values, a = b ∨ before a b ∨ before b a) :
    IsFirst before values (extreme wanted values) := by
  cases values with
  | nil => exact .inl ⟨rfl, rfl⟩
  | cons v rest =>
    have hseen : [v] ⊆ v :: rest := List.cons_subset_cons v (List.nil_subset rest)
    obtain ⟨hmem, hfirst⟩ := foldl_better htrans hbetter htotal (List.subset_cons_self v rest)
      hseen (List.mem_singleton_self v) (List.forall_mem_singleton.2 (.inl rfl))
    have hiff : ∀ w, w ∈ rest ++ [v] ↔ w ∈ v :: rest := by simp [or_comm]
    exact .inr ⟨(hiff _).1 hmem, fun w hw => hfirst w ((hiff w).2 hw)⟩

/-- Of values of one kind, the functions `min` and `max` yield the least and the greatest. -/
theorem isFirst_min_and_max (hk : kind.IsExact)
    (hvalues : ∀ v ∈ values, SortKind.ofValue? v = some kind) :
    IsFirst Before values (extreme .lt values) ∧
      IsFirst (fun a b => Before b a) values (extreme .gt values) := by
  constructor
  · refine isFirst_extreme (fun _ _ _ => Before.trans) (fun a ha b hb => ?_) fun a ha b hb => ?_
    · exact compare?_eq_lt_iff hk (hvalues a ha) (hvalues b hb)
    · exact eq_or_before hk (hvalues a ha) (hvalues b hb)
  · refine isFirst_extreme (fun _ _ _ hab hbc => hbc.trans hab) (fun a ha b hb => ?_)
      fun a ha b hb => ?_
    · exact compare?_eq_gt_iff hk (hvalues a ha) (hvalues b hb)
    · exact (eq_or_before hk (hvalues a ha) (hvalues b hb)).imp_right Or.symm

end Aggregate
end RowQuery
