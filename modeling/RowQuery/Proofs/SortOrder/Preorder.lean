import RowQuery.Proofs.Json.RoundTrip
import RowQuery.Proofs.Number.Order
import RowQuery.Proofs.SortOrder.Comparison
/-!
Where the order of rows is a preorder.

Two integers of 64 signed bits are compared exactly, and every other pair of numbers as floats. As
rounding keeps the order, numbers are in the order of the floats nearest to them, and only two such
integers are told apart where these are equal. So a number that is no such integer may equal two
integers that differ, and then the order goes round. Main statement: rows whose fields hold scalars
of one type each are in a preorder if no number does that, and no field in which one does it orders
the rows.
-/

namespace RowQuery

namespace Json

/-! ### Numbers by their nearest floats -/

namespace Number

/-- A number that a JSON text can hold. -/
def IsStored : Number → Prop
  | .int i => FitsJson i
  | .float _ => True

/-- The nearest float, in units. -/
def floatUnits (n : Number) : Int := (n.binary64?.map Binary64.units).getD 0

/-- The order of two integers of 64 signed bits; two other numbers are not told apart. -/
def tie (a b : Number) : Ordering :=
  match a.int64?, b.int64? with
  | some i, some j => compare i j
  | _, _ => .eq

variable {a b : Number}

theorem tie_of_left (b : Number) (h : a.int64? = none) : a.tie b = .eq := by rw [tie, h]

theorem tie_of_right (a : Number) (h : b.int64? = none) : a.tie b = .eq := by
  rw [tie, h]
  cases a.int64? <;> rfl

theorem tie_of_int {i j : Int} (ha : a.int64? = some i) (hb : b.int64? = some j) :
    a.tie b = compare i j := by
  rw [tie, ha, hb]

theorem IsStored.exists_binary64? (h : a.IsStored) : ∃ x, a.binary64? = some x := by
  cases a with
  | float x => exact ⟨x, rfl⟩
  | int i =>
    obtain ⟨hmin, hmax⟩ : FitsJson i := h
    have hmin' : minInt64 = -(2 ^ 63) := rfl
    have hmax' : (maxUInt64 : Int) = 2 ^ 64 - 1 := rfl
    exact Option.isSome_iff_exists.1 (Binary64.isSome_ofInt? (by omega))

/-- The nearest floats of two integers are in the order of the integers or equal. -/
theorem compare_eq_then {i j : Int} {x y : Binary64} (hx : Binary64.ofInt? i = some x)
    (hy : Binary64.ofInt? j = some y) :
    compare i j = (compare x.units y.units).then (compare i j) := by
  rcases Int.lt_trichotomy i j with hij | rfl | hij
  · have hle := Binary64.units_ofInt?_mono hx hy (Int.le_of_lt hij)
    rw [compare_lt_iff_lt.2 hij]
    cases hunits : compare x.units y.units with
    | lt | eq => rfl
    | gt => exact absurd (compare_gt_iff_gt.1 hunits) (Int.not_lt.2 hle)
  · rw [compare_eq_iff_eq.2 rfl, Ordering.then_eq]
    obtain rfl := Option.some.inj (hx.symm.trans hy)
    exact (compare_eq_iff_eq.2 rfl).symm
  · have hle := Binary64.units_ofInt?_mono hy hx (Int.le_of_lt hij)
    rw [compare_gt_iff_gt.2 hij]
    cases hunits : compare x.units y.units with
    | gt | eq => rfl
    | lt => exact absurd (compare_lt_iff_lt.1 hunits) (Int.not_lt.2 hle)

/-- Numbers are compared by their nearest floats, and then as integers. -/
theorem compare?_eq_then (ha : a.IsStored) (hb : b.IsStored) :
    a.compare? b = some ((compare a.floatUnits b.floatUnits).then (a.tie b)) := by
  obtain ⟨x, hx⟩ := ha.exists_binary64?
  obtain ⟨y, hy⟩ := hb.exists_binary64?
  have hfloats : some (x.compare y)
      = some ((compare a.floatUnits b.floatUnits).then .eq) := by
    rw [Ordering.then_eq, floatUnits, floatUnits, hx, hy]
    rfl
  cases hai : a.int64? with
  | none =>
    rw [compare?, hai, hx, hy, tie_of_left b hai]
    exact hfloats
  | some i =>
    cases hbi : b.int64? with
    | none =>
      rw [compare?, hai, hbi, hx, hy, tie_of_right a hbi]
      exact hfloats
    | some j =>
      rw [compare?, hai, hbi, tie_of_int hai hbi, floatUnits, floatUnits, hx, hy]
      obtain ⟨rfl, -⟩ := int64?_eq_some_iff.1 hai
      obtain ⟨rfl, -⟩ := int64?_eq_some_iff.1 hbi
      exact congrArg some (compare_eq_then hx hy)

theorem compare?_of_floatUnits_eq (ha : a.IsStored) (hb : b.IsStored) (hint : a.int64? = none)
    (h : a.floatUnits = b.floatUnits) : a.compare? b = some .eq := by
  rw [compare?_eq_then ha hb, h, compare_eq_iff_eq.2 rfl, tie_of_left b hint]
  rfl

end Number

/-! ### Numbers that blur others -/

/-- A number that is no integer of 64 signed bits is equal to two such integers that differ. -/
def Value.Blurs (w u v : Value) : Prop :=
  w.int64? = none ∧ u.int64?.isSome ∧ v.int64?.isSome ∧ u.int64? ≠ v.int64? ∧
    w.compare? u = some .eq ∧ w.compare? v = some .eq

instance (w u v : Value) : Decidable (w.Blurs u v) := by
  unfold Value.Blurs
  infer_instance

/-- None of some values blurs two of them. -/
def Unblurred (vs : List Value) : Prop := ∀ w ∈ vs, ∀ u ∈ vs, ∀ v ∈ vs, ¬w.Blurs u v

instance (vs : List Value) : Decidable (Unblurred vs) := by
  unfold Unblurred
  infer_instance

/-- A number that is no integer has the nearest float of no two different integers. -/
theorem Unblurred.tie_eq {vs : List Value} (h : Unblurred vs) {w u v : Number}
    (hw : .num w ∈ vs) (hu : .num u ∈ vs) (hv : .num v ∈ vs) (hws : w.IsStored)
    (hus : u.IsStored) (hvs : v.IsStored) (hint : w.int64? = none)
    (hwu : w.floatUnits = u.floatUnits) (hwv : w.floatUnits = v.floatUnits) : u.tie v = .eq := by
  cases hui : u.int64? with
  | none => exact Number.tie_of_left v hui
  | some i =>
    cases hvi : v.int64? with
    | none => exact Number.tie_of_right u hvi
    | some j =>
      by_contra hne
      rw [Number.tie_of_int hui hvi, compare_eq_iff_eq] at hne
      have hdiffer : u.int64? ≠ v.int64? := by
        rw [hui, hvi]
        exact fun h => hne (Option.some.inj h)
      exact h _ hw _ hu _ hv ⟨hint, Option.isSome_of_eq_some hui, Option.isSome_of_eq_some hvi,
        hdiffer, Number.compare?_of_floatUnits_eq hws hus hint hwu,
        Number.compare?_of_floatUnits_eq hws hvs hint hwv⟩

end Json

namespace SortOrder

open Json

/-! ### Values of one type -/

theorem valueOrder_num {n m : Number} (hn : n.IsStored) (hm : m.IsStored) :
    valueOrder (.num n) (.num m) = (compare n.floatUnits m.floatUnits).then (n.tie m) := by
  rw [valueOrder, Value.compare?, Number.compare?_eq_then hn hm]
  rfl

/-- Numbers compose where none blurs others. -/
theorem orders_numbers {vs : List Value} (h : Unblurred vs) :
    Orders valueOrder fun v => v ∈ vs ∧ ∃ n : Number, v = .num n ∧ n.IsStored := by
  rintro _ ⟨hx, n, rfl, hn⟩ _ ⟨hy, m, rfl, hm⟩ _ ⟨hz, k, rfl, hk⟩
  rw [valueOrder_num hn hm, valueOrder_num hm hk, valueOrder_num hn hk]
  refine (composes_compare n.floatUnits m.floatUnits k.floatUnits).lex fun hnm hmk => ?_
  rw [compare_eq_iff_eq] at hnm hmk
  -- the nearest floats are equal, so any of the three that is no integer blurs the other two
  cases hni : n.int64? with
  | none =>
    rw [Number.tie_of_left m hni, Number.tie_of_left k hni,
      h.tie_eq hx hy hz hn hm hk hni hnm (hnm.trans hmk)]
    exact fun _ _ => rfl
  | some i =>
    cases hmi : m.int64? with
    | none =>
      rw [Number.tie_of_right n hmi, Number.tie_of_left k hmi,
        h.tie_eq hy hx hz hm hn hk hmi hnm.symm hmk]
      exact fun _ _ => rfl
    | some j =>
      cases hki : k.int64? with
      | none =>
        rw [Number.tie_of_right n hki, Number.tie_of_right m hki,
          h.tie_eq hz hx hy hk hn hm hki (hnm.trans hmk).symm hmk.symm]
        exact fun _ _ => rfl
      | some l =>
        rw [Number.tie_of_int hni hmi, Number.tie_of_int hmi hki, Number.tie_of_int hni hki]
        exact composes_compare i j l

/-- The types of scalars that are ordered among themselves. -/
inductive ScalarType where
  | number
  | text
  | truth

/-- The value is null or of the type. -/
def ScalarType.Admits (type : ScalarType) (v : Value) : Prop :=
  v = .null ∨ match type with
    | number => ∃ n : Number, v = .num n ∧ n.IsStored
    | text => ∃ t, v = .str t
    | truth => ∃ b, v = .bool b

theorem ScalarType.orders_valueOrder {vs : List Value} (type : ScalarType) (h : Unblurred vs)
    (hvs : ∀ v ∈ vs, type.Admits v) : Orders valueOrder fun v => v ∈ vs ∧ v.isNull = false := by
  have hvalues : ∀ v, v ∈ vs ∧ v.isNull = false → v ∈ vs ∧ type.Admits v ∧ v ≠ .null := by
    rintro v ⟨hv, hnull⟩
    refine ⟨hv, hvs v hv, ?_⟩
    rintro rfl
    cases hnull
  cases type with
  | number =>
    refine (orders_numbers h).mono fun v hv => ?_
    obtain ⟨hmem, hadmits, hnull⟩ := hvalues v hv
    exact ⟨hmem, hadmits.resolve_left hnull⟩
  | text =>
    refine (@IsExact.orders_valueOrder .text trivial).mono fun v hv => ?_
    obtain ⟨-, hadmits, hnull⟩ := hvalues v hv
    obtain ⟨t, rfl⟩ := hadmits.resolve_left hnull
    rfl
  | truth =>
    refine (@IsExact.orders_valueOrder .truth trivial).mono fun v hv => ?_
    obtain ⟨-, hadmits, hnull⟩ := hvalues v hv
    obtain ⟨b, rfl⟩ := hadmits.resolve_left hnull
    rfl

/-! ### Rows -/

variable {sort : SortOrder} {rows : List Json.Row} {s : SortField}

/-- Each field of a sort holds null or scalars of one type in some rows. -/
def HoldsScalars (sort : SortOrder) (rows : List Json.Row) : Prop :=
  ∀ s ∈ sort, ∃ type : ScalarType, ∀ row ∈ rows, type.Admits (valueAt row s.field)

/-- The values of a field in some rows. -/
def column (rows : List Json.Row) (field : String) : List Value := rows.map (valueAt · field)

/-- Through any three rows the order goes on: it does not go down over two steps that do not, and it
goes up as soon as one of them does. -/
def Chains (sort : SortOrder) (rows : List Json.Row) : Prop :=
  ∀ x ∈ rows, ∀ y ∈ rows, ∀ z ∈ rows,
    compareRows sort x y ≠ .gt → compareRows sort y z ≠ .gt →
      compareRows sort x z ≠ .gt ∧
        (compareRows sort x y = .lt ∨ compareRows sort y z = .lt → compareRows sort x z = .lt)

theorem chains_of_unblurred (h : HoldsScalars sort rows)
    (hblur : ∀ s ∈ sort, Unblurred (column rows s.field)) : Chains sort rows := by
  have horders : Orders (compareRows sort) (· ∈ rows) := by
    refine orders_compareRows fun s hs => orders_compareValues s ?_
    obtain ⟨type, htype⟩ := h s hs
    exact type.orders_valueOrder (hblur s hs) (List.forall_mem_map.2 htype)
  intro x hx y hy z hz hxy hyz
  exact ⟨(horders hx hy hz).ne_gt hxy hyz, (horders hx hy hz).eq_lt hxy hyz⟩

theorem compareRows_singleton (s : SortField) (x y : Json.Row) :
    compareRows [s] x y = compareValues s (valueAt x s.field) (valueAt y s.field) := by
  rw [compareRows, compareRows, Ordering.then_eq]

theorem compareValues_of_compare? {a b : Value} {order : Ordering} (h : a.compare? b = some order) :
    compareValues s a b = directed s order := by
  have ha : a.isNull = false := by
    cases a with
    | null => cases b <;> cases h
    | bool | num | str | arr | obj => rfl
  have hb : b.isNull = false := by
    cases b with
    | null => cases a <;> cases h
    | bool | num | str | arr | obj => rfl
  rw [compareValues_of_isNull_eq_false ha hb, valueOrder, h]
  rfl

theorem compare?_of_int64? {u v : Value} {i j : Int} (hu : u.int64? = some i)
    (hv : v.int64? = some j) : u.compare? v = some (compare i j) := by
  obtain ⟨rfl, -⟩ := Value.int64?_eq_some_iff.1 hu
  obtain ⟨rfl, -⟩ := Value.int64?_eq_some_iff.1 hv
  rw [Value.int, Value.int64?] at hu hv
  rw [Value.int, Value.int, Value.compare?, Number.compare?, hu, hv]

/-- A field with a number that blurs two others does not order the rows. -/
theorem unblurred_of_chains (h : Chains [s] rows) : Unblurred (column rows s.field) := by
  intro w hw u hu v hv hblurs
  obtain ⟨x, hx, rfl⟩ := List.mem_map.1 hw
  obtain ⟨y, hy, rfl⟩ := List.mem_map.1 hu
  obtain ⟨z, hz, rfl⟩ := List.mem_map.1 hv
  obtain ⟨-, husome, hvsome, hne, hwu, hwv⟩ := hblurs
  obtain ⟨i, hi⟩ := Option.isSome_iff_exists.1 husome
  obtain ⟨j, hj⟩ := Option.isSome_iff_exists.1 hvsome
  have hxy : compareRows [s] x y = .eq := by
    rw [compareRows_singleton, compareValues_of_compare? hwu, directed_eq_eq]
  have hxz : compareRows [s] x z = .eq := by
    rw [compareRows_singleton, compareValues_of_compare? hwv, directed_eq_eq]
  have hyx : compareRows [s] y x = .eq := by rw [compareRows_swap, hxy]; rfl
  have hzx : compareRows [s] z x = .eq := by rw [compareRows_swap, hxz]; rfl
  have hyz : compareRows [s] y z ≠ .eq := by
    rw [compareRows_singleton, compareValues_of_compare? (compare?_of_int64? hi hj), ne_eq,
      directed_eq_eq, compare_eq_iff_eq]
    rintro rfl
    exact hne (hi.trans hj.symm)
  have hle := (h y hy x hx z hz (by simp [hyx]) (by simp [hxz])).1
  have hge := (h z hz x hx y hy (by simp [hzx]) (by simp [hxy])).1
  rw [compareRows_swap] at hge
  cases hcmp : compareRows [s] y z with
  | lt => exact hge (by rw [hcmp]; rfl)
  | eq => exact hyz hcmp
  | gt => exact hle hcmp

/-- Rows are equal to themselves and turn round with their order. Rows whose fields hold scalars of
one type each are in a preorder where no number blurs two others, and where one does, its field does
not order them. -/
theorem compareRows_preorder (h : HoldsScalars sort rows) :
    (∀ x, compareRows sort x x = .eq) ∧
      (∀ x y, compareRows sort y x = (compareRows sort x y).swap) ∧
      ((∀ s ∈ sort, Unblurred (column rows s.field)) → Chains sort rows) ∧
      ∀ s ∈ sort, Chains [s] rows ↔ Unblurred (column rows s.field) := by
  refine ⟨compareRows_self sort, compareRows_swap sort, chains_of_unblurred h, fun s hs => ?_⟩
  refine ⟨unblurred_of_chains, fun hblur => chains_of_unblurred ?_ ?_⟩
  · exact List.forall_mem_singleton.2 (h s hs)
  · exact List.forall_mem_singleton.2 hblur

/-- An integer beyond the 53 bits of a float, one beyond the 64 bits of an integer, a float, null
and a text in a second field. -/
theorem compareRows_preorder_large :
    let rows : List Json.Row := [[("n", .int (2 ^ 53 + 1)), ("t", .str "b")],
      [("n", .int (2 ^ 63 + 1))], [("n", .float ⟨false, 2 ^ 52, 1075, by decide⟩)],
      [("t", .str "a")]]
    let sort : SortOrder := [.desc "n", .asc "t"]
    HoldsScalars sort rows ∧ (∀ s ∈ sort, Unblurred (column rows s.field)) ∧
      Chains sort rows := by
  intro rows sort
  have hscalars : HoldsScalars sort rows := by
    refine List.forall_mem_cons.2 ⟨⟨.number, ?_⟩, List.forall_mem_singleton.2 ⟨.text, ?_⟩⟩
    · refine List.forall_mem_cons.2 ⟨.inr ⟨_, rfl, by decide, by decide⟩,
        List.forall_mem_cons.2 ⟨.inr ⟨_, rfl, by decide, by decide⟩,
        List.forall_mem_cons.2 ⟨.inr ⟨_, rfl, trivial⟩, List.forall_mem_singleton.2 (.inl rfl)⟩⟩⟩
    · exact List.forall_mem_cons.2 ⟨.inr ⟨_, rfl⟩, List.forall_mem_cons.2 ⟨.inl rfl,
        List.forall_mem_cons.2 ⟨.inl rfl, List.forall_mem_singleton.2 (.inr ⟨_, rfl⟩)⟩⟩⟩
  have hblur : ∀ s ∈ sort, Unblurred (column rows s.field) := by decide +kernel
  exact ⟨hscalars, hblur, (compareRows_preorder hscalars).2.2.1 hblur⟩

/-- A float is equal to two integers, and the first of these comes after the second. -/
theorem compareRows_goes_round :
    let row (v : Value) : Json.Row := [("n", v)]
    let large := row (.int (2 ^ 53 + 1))
    let float := row (.float ⟨false, 2 ^ 52, 1075, by decide⟩)
    let small := row (.int (2 ^ 53))
    HoldsScalars [.asc "n"] [large, float, small] ∧
      compareRows [.asc "n"] large float = .eq ∧ compareRows [.asc "n"] float small = .eq ∧
        compareRows [.asc "n"] large small = .gt ∧ ¬Chains [.asc "n"] [large, float, small] := by
  intro row large float small
  have hlarge : compareRows [.asc "n"] large small = .gt := by decide +kernel
  have hfloat : compareRows [.asc "n"] large float = .eq := by decide +kernel
  have hsmall : compareRows [.asc "n"] float small = .eq := by decide +kernel
  refine ⟨List.forall_mem_singleton.2 ⟨.number, ?_⟩, hfloat, hsmall, hlarge, fun h => ?_⟩
  · exact List.forall_mem_cons.2 ⟨.inr ⟨_, rfl, by decide, by decide⟩,
      List.forall_mem_cons.2 ⟨.inr ⟨_, rfl, trivial⟩,
      List.forall_mem_singleton.2 (.inr ⟨_, rfl, by decide, by decide⟩)⟩⟩
  · exact (h large (by simp) float (by simp) small (by simp) (by simp [hfloat])
      (by simp [hsmall])).1 hlarge

end SortOrder
end RowQuery
