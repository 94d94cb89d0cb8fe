import Mathlib.Tactic.Common
import RowQuery.SortOrder.Arrangement
/-!
The order of rows.

The order of any two rows turns round with the rows. That rows compose, so that what does not come
after a second row does not come after a third one behind it, is carried from the values of one
field to whole rows: null comes before or behind all other values, a direction at most turns the
order round, and the first field that tells two rows apart decides. Values of one kind are compared
as keys of a linear order. So under a sort whose fields hold values of one kind each, rows are
linearly ordered up to their values in the fields of the sort.
-/

namespace RowQuery

open Std

/-! ### Comparisons that compose -/

/-- What the orders of a first and a second thing and of the second and a third one make of the
first and the third, where neither of the two goes down. -/
def Composes (ab bc ac : Ordering) : Prop := ab ≠ .gt → bc ≠ .gt → ac = ab.then bc

/-- A comparison of some things composes, whichever three of them it is about. -/
def Orders {α : Type} (cmp : α → α → Ordering) (p : α → Prop) : Prop :=
  ∀ ⦃x⦄, p x → ∀ ⦃y⦄, p y → ∀ ⦃z⦄, p z → Composes (cmp x y) (cmp y z) (cmp x z)

section
variable {ab bc ac ab' bc' ac' : Ordering}

theorem Composes.ne_gt (h : Composes ab bc ac) (hab : ab ≠ .gt) (hbc : bc ≠ .gt) : ac ≠ .gt := by
  rw [h hab hbc]
  cases ab <;> assumption

theorem Composes.eq_lt (h : Composes ab bc ac) (hab : ab ≠ .gt) (hbc : bc ≠ .gt)
    (hlt : ab = .lt ∨ bc = .lt) : ac = .lt := by
  rw [h hab hbc]
  cases ab with
  | lt => rfl
  | eq => exact hlt.resolve_left Ordering.noConfusion
  | gt => exact absurd rfl hab

theorem Composes.comm (h : Composes bc ab ac) : Composes ab bc ac := by
  intro hab hbc
  rw [h hbc hab]
  revert hab hbc
  cases ab <;> cases bc <;> decide

/-- A second comparison is asked only where the first one tells nothing apart. -/
theorem Composes.lex (h : Composes ab bc ac)
    (h' : ab = .eq → bc = .eq → Composes ab' bc' ac') :
    Composes (ab.then ab') (bc.then bc') (ac.then ac') := by
  intro hab hbc
  have hfirst : ∀ {o o' : Ordering}, o.then o' ≠ .gt → o ≠ .gt := by
    rintro o o' hne rfl
    exact hne rfl
  rw [h (hfirst hab) (hfirst hbc)]
  cases ab with
  | lt => rfl
  | gt => exact absurd rfl hab
  | eq =>
    cases bc with
    | lt =>
      cases ab' with
      | lt | eq => rfl
      | gt => exact absurd rfl hab
    | gt => exact absurd rfl hbc
    | eq => exact h' rfl rfl hab hbc

end

section
variable {α β : Type} {cmp : α → α → Ordering} {p q : α → Prop}

theorem composes_compare [Ord β] [TransOrd β] (a b c : β) :
    Composes (compare a b) (compare b c) (compare a c) := by
  intro hab hbc
  cases hab' : compare a b with
  | lt => exact TransCmp.lt_of_lt_of_isLE hab' (Ordering.isLE_iff_ne_gt.2 hbc)
  | eq => exact TransCmp.congr_left hab'
  | gt => exact absurd hab' hab

theorem Orders.mono (h : Orders cmp p) (hqp : ∀ x, q x → p x) : Orders cmp q :=
  fun x hx y hy z hz => h (hqp x hx) (hqp y hy) (hqp z hz)

/-- Whatever is compared by keys of a linear order composes. -/
theorem orders_of_key [Ord β] [TransOrd β] (key : α → β)
    (h : ∀ x, p x → ∀ y, p y → cmp x y = compare (key x) (key y)) : Orders cmp p := by
  intro x hx y hy z hz
  rw [h x hx y hy, h y hy z hz, h x hx z hz]
  exact composes_compare (key x) (key y) (key z)

end

/-! ### Values of one kind -/

theorem Json.Number.int64?_eq_some_iff {n : Json.Number} {i : Int} :
    n.int64? = some i ↔ n = .int i ∧ Json.fitsInt64 i = true := by
  cases n with
  | float x => simp [int64?]
  | int j =>
    rw [int64?, Option.ite_none_right_eq_some, Option.some.injEq, Json.Number.int.injEq]
    constructor
    · rintro ⟨hfits, rfl⟩
      exact ⟨rfl, hfits⟩
    · rintro ⟨rfl, hfits⟩
      exact ⟨hfits, rfl⟩

theorem Json.Value.int64?_eq_some_iff {v : Json.Value} {i : Int} :
    v.int64? = some i ↔ v = .int i ∧ Json.fitsInt64 i = true := by
  cases v with
  | num n => rw [int64?, Json.Number.int64?_eq_some_iff, int, Json.Value.num.injEq]
  | null | bool | str | arr | obj => simp [int64?, int]

namespace SortKind

/-- The kinds whose order is exact. -/
def IsExact : SortKind → Prop
  | integer | text | truth => True
  | float | collection => False

/-- The value is null or of the kind. -/
def Admits (kind : SortKind) (v : Json.Value) : Prop := v = .null ∨ ofValue? v = some kind

theorem exists_int_of_ofValue? {v : Json.Value} (h : ofValue? v = some .integer) :
    ∃ i, v = .num (.int i) ∧ Json.fitsInt64 i = true := by
  cases v with
  | num n =>
    simp only [ofValue?, Option.some.injEq] at h
    split at h
    · next hsome =>
      obtain ⟨i, hi⟩ := Option.isSome_iff_exists.1 hsome
      obtain ⟨rfl, hfits⟩ := Json.Number.int64?_eq_some_iff.1 hi
      exact ⟨i, rfl, hfits⟩
    · cases h
  | null | bool | str | arr | obj => cases h

theorem exists_str_of_ofValue? {v : Json.Value} (h : ofValue? v = some .text) :
    ∃ t, v = .str t := by
  cases v with
  | str t => exact ⟨t, rfl⟩
  | num n => simp only [ofValue?] at h; split at h <;> cases h
  | null | bool | arr | obj => cases h

theorem exists_bool_of_ofValue? {v : Json.Value} (h : ofValue? v = some .truth) :
    ∃ b, v = .bool b := by
  cases v with
  | bool b => exact ⟨b, rfl⟩
  | num n => simp only [ofValue?] at h; split at h <;> cases h
  | null | str | arr | obj => cases h

@[simp]
theorem admits_null (kind : SortKind) : kind.Admits .null := .inl rfl

@[simp]
theorem admits_str (t : String) : text.Admits (.str t) := .inr rfl

theorem admits_int {i : Int} (h : Json.fitsInt64 i = true) : integer.Admits (.int i) := by
  refine .inr ?_
  simp only [Json.Value.int, ofValue?, Json.Number.int64?, h, if_true, Option.isSome_some]

/-- The integer of an integer value. -/
def intKey : Json.Value → Int
  | .num (.int i) => i
  | _ => 0

/-- The text of a string value. -/
def textKey : Json.Value → String
  | .str t => t
  | _ => ""

/-- The boolean of a boolean value. -/
def truthKey : Json.Value → Bool
  | .bool c => c
  | _ => false

/-- Values of an exact kind are compared by their keys in a linear order. -/
theorem IsExact.exists_key {kind : SortKind} (h : kind.IsExact) :
    ∃ (α : Type) (_ : Ord α) (_ : TransOrd α) (_ : LawfulEqOrd α) (key : Json.Value → α),
      ∀ a b, ofValue? a = some kind → ofValue? b = some kind →
        a.compare? b = some (compare (key a) (key b)) ∧ (key a = key b → a = b) := by
  cases kind with
  | integer =>
    refine ⟨Int, inferInstance, inferInstance, inferInstance, intKey, fun a b ha hb => ?_⟩
    obtain ⟨i, rfl, hi⟩ := exists_int_of_ofValue? ha
    obtain ⟨j, rfl, hj⟩ := exists_int_of_ofValue? hb
    refine ⟨?_, fun hij => by simpa [intKey] using hij⟩
    simp only [Json.Value.compare?, Json.Number.compare?, Json.Number.int64?, hi, hj, if_true,
      intKey]
  | text =>
    refine ⟨String, inferInstance, inferInstance, inferInstance, textKey, fun a b ha hb => ?_⟩
    obtain ⟨t, rfl⟩ := exists_str_of_ofValue? ha
    obtain ⟨u, rfl⟩ := exists_str_of_ofValue? hb
    exact ⟨rfl, fun htu => congrArg _ htu⟩
  | truth =>
    refine ⟨Bool, inferInstance, inferInstance, inferInstance, truthKey, fun a b ha hb => ?_⟩
    obtain ⟨c, rfl⟩ := exists_bool_of_ofValue? ha
    obtain ⟨d, rfl⟩ := exists_bool_of_ofValue? hb
    exact ⟨rfl, fun hcd => congrArg _ hcd⟩
  | float | collection => cases h

end SortKind

/-! ### Values under one sort field -/

theorem Json.Number.compare?_swap (a b : Json.Number) :
    b.compare? a = (a.compare? b).map Ordering.swap := by
  rw [compare?, compare?]
  cases a.int64? <;> cases b.int64?
  case some.some i j => exact congrArg some OrientedOrd.eq_swap
  all_goals
    cases a.binary64? <;> cases b.binary64?
    case some.some x y => exact congrArg some OrientedOrd.eq_swap
    all_goals rfl

theorem Json.Value.compare?_swap (a b : Json.Value) :
    b.compare? a = (a.compare? b).map Ordering.swap := by
  cases a <;> cases b
  case num.num n m => exact Json.Number.compare?_swap n m
  case str.str t u => exact congrArg some OrientedOrd.eq_swap
  case bool.bool c d => exact congrArg some OrientedOrd.eq_swap
  all_goals rfl

namespace SortOrder

variable {kind : SortKind} {s : SortField} {a b : Json.Value}

theorem isNull_eq_false_of_ofValue? {v : Json.Value} (h : SortKind.ofValue? v = some kind) :
    v.isNull = false := by
  cases v with
  | null => cases h
  | bool | num | str | arr | obj => rfl

/-- The order of two values that are not null; those that do not compare count as equal. -/
def valueOrder (a b : Json.Value) : Ordering := (a.compare? b).getD .eq

/-- Turns an order round for a descending field. -/
def directed (s : SortField) (order : Ordering) : Ordering :=
  if s.direction.isAscending then order else order.swap

/-- The place of null among all values under a sort field. -/
def nullRank (s : SortField) (v : Json.Value) : Nat :=
  if v.isNull = decide (s.effectiveNulls = .first) then 0 else 1

theorem valueOrder_swap (a b : Json.Value) : valueOrder b a = (valueOrder a b).swap := by
  rw [valueOrder, valueOrder, Json.Value.compare?_swap]
  cases a.compare? b <;> rfl

theorem valueOrder_of_isNull {v : Json.Value} (h : a.isNull = true) : valueOrder a v = .eq := by
  cases a with
  | null => cases v <;> rfl
  | bool | num | str | arr | obj => cases h

theorem compareValues_null_left (h : b.isNull = false) :
    compareValues s .null b = if s.effectiveNulls = .first then .lt else .gt := by
  rw [compareValues, h]; rfl

theorem compareValues_null_right (h : a.isNull = false) :
    compareValues s a .null = if s.effectiveNulls = .first then .gt else .lt := by
  rw [compareValues, h]; rfl

theorem compareValues_of_isNull_eq_false (ha : a.isNull = false) (hb : b.isNull = false) :
    compareValues s a b = directed s (valueOrder a b) := by
  simp [compareValues, ha, hb, directed, valueOrder]

theorem directed_swap (order : Ordering) : directed s order.swap = (directed s order).swap := by
  cases h : s.direction <;> simp [directed, h, Direction.isAscending]

theorem directed_eq_eq {order : Ordering} : directed s order = .eq ↔ order = .eq := by
  cases h : s.direction <;> cases order <;> simp [directed, h, Direction.isAscending]

/-- Where null stands decides first, and then the direction. -/
theorem compareValues_eq_then (s : SortField) (a b : Json.Value) : compareValues s a b
    = (compare (nullRank s a) (nullRank s b)).then (directed s (valueOrder a b)) := by
  rw [nullRank, nullRank]
  cases ha : a.isNull <;> cases hb : b.isNull
  · rw [compareValues_of_isNull_eq_false ha hb, ReflOrd.compare_self]
    rfl
  · rw [compareValues, ha, hb]
    cases s.effectiveNulls <;> rfl
  · rw [compareValues, ha, hb]
    cases s.effectiveNulls <;> rfl
  · rw [compareValues, ha, hb, ReflOrd.compare_self, valueOrder_of_isNull ha,
      directed_eq_eq.2 rfl]
    rfl

theorem compareValues_swap (s : SortField) (a b : Json.Value) :
    compareValues s b a = (compareValues s a b).swap := by
  rw [compareValues_eq_then, compareValues_eq_then, Ordering.swap_then, valueOrder_swap,
    directed_swap, ← OrientedOrd.eq_swap]

theorem compareValues_eq_iff (hk : kind.IsExact) (ha : kind.Admits a) (hb : kind.Admits b) :
    compareValues s a b = .eq ↔ a = b := by
  rcases ha with rfl | ha <;> rcases hb with rfl | hb
  · exact iff_of_true rfl rfl
  · rw [compareValues_null_left (isNull_eq_false_of_ofValue? hb)]
    refine iff_of_false (by split <;> decide) ?_
    rintro rfl
    cases hb
  · rw [compareValues_null_right (isNull_eq_false_of_ofValue? ha)]
    refine iff_of_false (by split <;> decide) ?_
    rintro rfl
    cases ha
  · obtain ⟨α, _, _, _, key, hkey⟩ := hk.exists_key
    rw [compareValues_of_isNull_eq_false (isNull_eq_false_of_ofValue? ha)
      (isNull_eq_false_of_ofValue? hb), valueOrder, (hkey a b ha hb).1, Option.getD_some,
      directed_eq_eq, LawfulEqOrd.compare_eq_iff_eq]
    exact ⟨(hkey a b ha hb).2, fun h => congrArg key h⟩

/-- A direction keeps what composes, since it turns all three orders round or none. -/
theorem orders_directed {p : Json.Value → Prop} (s : SortField) (h : Orders valueOrder p) :
    Orders (fun a b => directed s (valueOrder a b)) p := by
  intro a ha b hb c hc
  simp only [directed]
  split
  · exact h ha hb hc
  · rw [← valueOrder_swap, ← valueOrder_swap, ← valueOrder_swap]
    exact (h hc hb ha).comm

theorem isNull_eq_of_nullRank (h : nullRank s a = nullRank s b) : a.isNull = b.isNull := by
  revert h
  rw [nullRank, nullRank]
  cases a.isNull <;> cases b.isNull <;> cases s.effectiveNulls <;> decide

theorem orders_compareValues {p : Json.Value → Prop} (s : SortField)
    (h : Orders valueOrder fun v => p v ∧ v.isNull = false) : Orders (compareValues s) p := by
  intro a ha b hb c hc
  rw [compareValues_eq_then, compareValues_eq_then, compareValues_eq_then]
  refine (composes_compare (nullRank s a) (nullRank s b) (nullRank s c)).lex fun hab hbc => ?_
  -- of one rank, the three values are null or none of them is
  have hab' := isNull_eq_of_nullRank (Nat.compare_eq_eq.1 hab)
  have hbc' := isNull_eq_of_nullRank (Nat.compare_eq_eq.1 hbc)
  cases hnull : b.isNull with
  | true =>
    rw [valueOrder_of_isNull (hab'.trans hnull), valueOrder_of_isNull hnull,
      valueOrder_of_isNull (hab'.trans hnull), directed_eq_eq.2 rfl]
    exact fun _ _ => rfl
  | false =>
    exact orders_directed s h ⟨ha, hab'.trans hnull⟩ ⟨hb, hnull⟩ ⟨hc, hbc'.symm.trans hnull⟩

theorem IsExact.orders_valueOrder (hk : kind.IsExact) :
    Orders valueOrder fun v => SortKind.ofValue? v = some kind := by
  obtain ⟨α, _, _, _, key, hkey⟩ := hk.exists_key
  refine orders_of_key key fun a ha b hb => ?_
  rw [valueOrder, (hkey a b ha hb).1, Option.getD_some]

/-! ### Rows under a sort -/

/-- Each field of a sort holds null or values of one exact kind in some rows. -/
def HasKinds (sort : SortOrder) (rows : List Json.Row) : Prop :=
  ∀ s ∈ sort, ∃ kind : SortKind, kind.IsExact ∧ ∀ row ∈ rows, kind.Admits (valueAt row s.field)

theorem HasKinds.subset {sort : SortOrder} {rows rows' : List Json.Row} (h : HasKinds sort rows)
    (hsub : rows' ⊆ rows) : HasKinds sort rows' := by
  intro s hs
  obtain ⟨kind, hk, hrows⟩ := h s hs
  exact ⟨kind, hk, fun row hrow => hrows row (hsub hrow)⟩

theorem HasKinds.tail {sort : SortOrder} {rows : List Json.Row} (h : HasKinds (s :: sort) rows) :
    HasKinds sort rows :=
  fun t ht => h t (List.mem_cons_of_mem _ ht)

/-- Two rows hold the same values in the fields of a sort. -/
def AgreeOn (sort : SortOrder) (x y : Json.Row) : Prop :=
  ∀ s ∈ sort, valueAt x s.field = valueAt y s.field

variable {sort : SortOrder} {rows : List Json.Row} {x y z : Json.Row}

theorem compareRows_swap (sort : SortOrder) (x y : Json.Row) :
    compareRows sort y x = (compareRows sort x y).swap := by
  induction sort with
  | nil => rfl
  | cons s rest ih => rw [compareRows, compareRows, ih, compareValues_swap, Ordering.swap_then]

theorem compareRows_self (sort : SortOrder) (x : Json.Row) : compareRows sort x x = .eq :=
  Ordering.eq_eq_of_eq_swap (compareRows_swap sort x x)

theorem compareRows_eq_iff (h : HasKinds sort [x, y]) :
    compareRows sort x y = .eq ↔ AgreeOn sort x y := by
  induction sort with
  | nil => exact iff_of_true rfl (List.forall_mem_nil _)
  | cons s rest ih =>
    obtain ⟨kind, hk, hrows⟩ := h s (List.mem_cons_self ..)
    rw [compareRows, Ordering.then_eq_eq, ih h.tail,
      compareValues_eq_iff hk (hrows x (by simp)) (hrows y (by simp)), AgreeOn, AgreeOn,
      List.forall_mem_cons]

/-- Rows compose where the values of each field do. -/
theorem orders_compareRows (h : ∀ s ∈ sort, Orders (compareValues s)
      fun v => v ∈ rows.map (valueAt · s.field)) :
    Orders (compareRows sort) (· ∈ rows) := by
  induction sort with
  | nil => exact fun _ _ _ _ _ _ _ _ => rfl
  | cons s rest ih =>
    obtain ⟨hs, hrest⟩ := List.forall_mem_cons.1 h
    intro x hx y hy z hz
    exact (hs (List.mem_map_of_mem hx) (List.mem_map_of_mem hy) (List.mem_map_of_mem hz)).lex
      fun _ _ => ih hrest hx hy hz

theorem HasKinds.orders (h : HasKinds sort rows) : Orders (compareRows sort) (· ∈ rows) := by
  refine orders_compareRows fun s hs => orders_compareValues s ?_
  obtain ⟨kind, hk, hrows⟩ := h s hs
  refine (IsExact.orders_valueOrder hk).mono fun v hv => ?_
  obtain ⟨hmem, hnull⟩ := hv
  obtain ⟨row, hrow, rfl⟩ := List.mem_map.1 hmem
  refine (hrows row hrow).resolve_left fun hv => ?_
  rw [hv] at hnull
  cases hnull

theorem HasKinds.lt_trans (h : HasKinds sort rows) (hx : x ∈ rows) (hy : y ∈ rows) (hz : z ∈ rows)
    (hxy : compareRows sort x y = .lt) (hyz : compareRows sort y z = .lt) :
    compareRows sort x z = .lt :=
  (h.orders hx hy hz).eq_lt (by simp [hxy]) (by simp [hyz]) (.inl hxy)

/-- Rows that agree compare alike. -/
theorem AgreeOn.compareRows_eq (h : AgreeOn sort y z) (x : Json.Row) :
    compareRows sort x y = compareRows sort x z := by
  induction sort with
  | nil => rfl
  | cons s rest ih =>
    obtain ⟨hs, hrest⟩ := List.forall_mem_cons.1 h
    rw [compareRows, compareRows, hs, ih hrest]

/-! ### The reversed sort -/

theorem effectiveNulls_inverted (s : SortField) :
    s.inverted.effectiveNulls = s.effectiveNulls.inverted := by
  rcases s with ⟨field, direction, nulls⟩
  cases direction <;> cases nulls <;> rfl

/-- The reversed sort turns the order of any two rows round. -/
theorem compareRows_inverted (sort : SortOrder) (x y : Json.Row) :
    compareRows sort.inverted x y = (compareRows sort x y).swap := by
  induction sort with
  | nil => rfl
  | cons s rest ih =>
    have hs : compareValues s.inverted (valueAt x s.field) (valueAt y s.field)
        = (compareValues s (valueAt x s.field) (valueAt y s.field)).swap := by
      rw [compareValues, compareValues, effectiveNulls_inverted]
      cases (valueAt x s.field).isNull <;> cases (valueAt y s.field).isNull <;>
        cases s.effectiveNulls <;> cases hd : s.direction <;>
        simp [NullsOrder.inverted, SortField.inverted, Direction.inverted, hd,
          Direction.isAscending]
    rw [compareRows, Ordering.swap_then, ← hs, ← ih]
    rfl

theorem hasKinds_inverted :
    HasKinds sort.inverted rows ↔ HasKinds sort rows := by
  simp only [HasKinds, inverted, List.forall_mem_map]
  rfl

end SortOrder
end RowQuery
