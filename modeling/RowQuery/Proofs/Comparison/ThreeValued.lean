import Mathlib.Data.List.Infix
import RowQuery.Proofs.Filter.Judgement
import RowQuery.Proofs.Sql.Truth
import RowQuery.Proofs.Text.Pattern
/-!
Built-in operators in memory and in the database.

The database answers a test with true, false or unknown and selects a row only where it is true. In
memory an operator holds or does not. The two agree on values of one kind with nulls among them, but
for the negated forms of lists and ranges: with a null in the list, or as one bound while the other
bound decides, memory answers without regard to what negation does to the unknown.
-/

namespace RowQuery

/-! ### Patterns -/

namespace Sql

open Pattern (items Fits fits_anyText fits_anyChar fits_char)

/-- Whether a pattern ends in a backslash that takes no character. -/
def endsOpen : List Char → Bool
  | [] => false
  | ['\\'] => true
  | '\\' :: _ :: rest => endsOpen rest
  | _ :: rest => endsOpen rest

variable {same : Char → Char → Bool}

/-- A text is like a pattern just when it fits its items. -/
theorem likes_iff_fits : ∀ (pattern text : List Char), endsOpen pattern = false →
    (likes same pattern text = true ↔ Fits same (items pattern) text)
  | [], text, _ => by simp [likes, items, Fits]
  | c :: pattern, text, h => by
    by_cases hslash : c = '\\'
    · subst hslash
      cases pattern with
      | nil => exact absurd h (by decide)
      | cons c pattern =>
        have ih := fun text => likes_iff_fits pattern text h
        rw [items, fits_char]
        cases text <;> simp [likes, ih]
    · have hopen : endsOpen pattern = false := by
        rw [← h, endsOpen] <;> simp [hslash]
      have ih := fun text => likes_iff_fits pattern text hopen
      rw [Pattern.items_cons hslash]
      by_cases hany : c = '%'
      · subst hany
        rw [if_pos rfl, fits_anyText, likes.eq_def]
        simp [ih, List.mem_tails]
      · by_cases hone : c = '_'
        · subst hone
          rw [if_neg hany, if_pos rfl, fits_anyChar]
          cases text <;> simp [likes, ih]
        · rw [if_neg hany, if_neg hone, fits_char]
          cases text with
          | nil => simp [likes, hslash]
          | cons d text => simp [likes, ih, hslash]

/-- The matcher accepts the texts that are like a pattern. -/
theorem likes_eq_accepts {anyCase : Bool} {pattern : List Char} (h : endsOpen pattern = false)
    (text : List Char) : likes (if anyCase then Casing.same else fun a b => a == b) pattern text
      = Pattern.accepts anyCase (items pattern) text := by
  rw [Bool.eq_iff_iff, likes_iff_fits pattern text h, Pattern.accepts_iff]

end Sql

/-! ### Values of one kind -/

namespace Comparison

open RowQuery.Filter (Operator Value)
open RowQuery.Sql (Param Truth Comparator)

/-- The value that a column holds, as the database has it: null, an integer of 64 signed bits, a
text or a boolean. -/
def stored? : Json.Value → Option Param
  | .null => some .null
  | .bool b => some (.bool b)
  | .num (.int i) => if Json.fitsInt64 i then some (.int i) else none
  | .num (.float _) => none
  | .str s => some (.text s)
  | .arr _ | .obj _ => none

/-- A database value and a scalar are of one kind; null is of every kind. -/
def SameKind : Param → Value → Prop
  | .null, _ | _, .null => True
  | .bool _, .bool _ | .int _, .int _ | .text _, .str _ => True
  | _, _ => False

/-- The scalars that a value is made of. -/
def scalarsOf : Value → List Value
  | .list items => items
  | .range lower upper => [lower, upper]
  | v => [v]

/-- A stored value meets the value of an operator: as the database has it, it is of the kind of
every scalar, and a cast that the scalar gets leaves it as it is. -/
structure Meets (convert : String → Param → Param) (s : Subject) (actual : Json.Value) (x : Param)
    (v : Value) : Prop where
  stored : stored? actual = some x
  inRange : v.InRange
  kind : ∀ w ∈ scalarsOf v, SameKind x w
  cast : ∀ t u type, x = .text t → .str u ∈ scalarsOf v → s.cast? (.text u) = some type →
    convert type (.text u) = .text u

/-- Where memory does not give the database's answer: outside of a list that holds null, outside of
a range by one bound while the other is null, and with a pattern that is too large. -/
def Deviates (op : Operator) (actual : Json.Value) (v : Value) : Prop :=
  match op, v with
  | .notIn, .list items =>
    actual.isNull = false ∧ .null ∈ items ∧
      ∀ w ∈ items, ordered Ordering.isEq actual w.toJson = false
  | .notBetween, .range lower upper =>
    lower = .null ∧ actual.compare? upper.toJson = some .gt ∨
      upper = .null ∧ actual.compare? lower.toJson = some .lt
  | _, _ => actual.text?.isSome = true ∧ isTooLarge op v = true

section
variable {convert : String → Param → Param} {s : Subject} {op : Operator} {actual : Json.Value}
  {x : Param} {v w : Value} {b : Sql.Bound}

theorem stored?_cases (h : stored? actual = some x) :
    (actual = .null ∧ x = .null) ∨ (∃ c, actual = .bool c ∧ x = .bool c) ∨
      (∃ i, Json.fitsInt64 i = true ∧ actual = .num (.int i) ∧ x = .int i) ∨
      ∃ t, actual = .str t ∧ x = .text t := by
  cases actual with
  | null => exact .inl ⟨rfl, (Option.some.inj h).symm⟩
  | bool c => exact .inr (.inl ⟨c, rfl, (Option.some.inj h).symm⟩)
  | num n =>
    cases n with
    | int i =>
      obtain ⟨hfits, h⟩ := Option.ite_none_right_eq_some.1 h
      exact .inr (.inr (.inl ⟨i, hfits, rfl, (Option.some.inj h).symm⟩))
    | float => cases h
  | str t => exact .inr (.inr (.inr ⟨t, rfl, (Option.some.inj h).symm⟩))
  | arr | obj => cases h

theorem isNull_eq (h : stored? actual = some x) : actual.isNull = x.isNull := by
  rcases stored?_cases h with ⟨rfl, rfl⟩ | ⟨c, rfl, rfl⟩ | ⟨i, -, rfl, rfl⟩ | ⟨t, rfl, rfl⟩ <;> rfl

/-- What a scalar is bound to. -/
theorem bound_of_scalar (h : scalar s op w = .ok b) :
    ∃ p, param? w = some p ∧ b = ⟨p, s.cast? p⟩ := by
  unfold scalar at h
  split at h
  · rename_i p hp
    cases h
    exact ⟨p, hp, rfl⟩
  · cases h

theorem inRange_of_mem : ∀ {items : List Value}, Value.InRangeItems items → w ∈ items → w.InRange
  | v :: rest, h, hw => by
    rw [Value.InRangeItems] at h
    rcases List.mem_cons.1 hw with rfl | hw
    · exact h.1
    · exact inRange_of_mem h.2 hw

theorem inRange_of_mem_scalarsOf (h : v.InRange) (hw : w ∈ scalarsOf v) : w.InRange := by
  cases v with
  | list items =>
    rw [Value.InRange] at h
    exact inRange_of_mem h hw
  | range lower upper =>
    rw [Value.InRange] at h
    simp only [scalarsOf, List.mem_cons, List.not_mem_nil, or_false] at hw
    rcases hw with rfl | rfl
    · exact h.1
    · exact h.2
  | null | bool | int | float | str => rwa [List.mem_singleton.1 hw]

/-- A stored value compares with a scalar as the database compares it with the bound value. -/
theorem Meets.order?_eval (h : Meets convert s actual x v) (hw : w ∈ scalarsOf v)
    (hb : scalar s op w = .ok b) : x.order? (b.eval convert) = actual.compare? w.toJson := by
  obtain ⟨p, hp, rfl⟩ := bound_of_scalar hb
  have hkind := h.kind w hw
  have hrange := inRange_of_mem_scalarsOf h.inRange hw
  rcases stored?_cases h.stored with
    ⟨rfl, rfl⟩ | ⟨c, rfl, rfl⟩ | ⟨i, hfits, rfl, rfl⟩ | ⟨t, rfl, rfl⟩
  · cases w <;> rfl
  · cases w with
    | null | bool => cases hp; rfl
    | int | float | str | list | range => cases hkind
  · cases w with
    | null => cases hp; rfl
    | int j =>
      cases hp
      have hj : Json.fitsInt64 j = true := by simpa only [Value.InRange] using hrange
      simp only [Value.toJson, Json.Value.int, Json.Value.compare?, Json.Number.compare?,
        Json.Number.int64?, hfits, hj, if_true]
      rfl
    | bool | float | str | list | range => cases hkind
  · cases w with
    | null => cases hp; rfl
    | str u =>
      cases hp
      cases htype : s.cast? (.text u) with
      | none => rfl
      | some type =>
        simp only [Sql.Bound.eval, h.cast t u type rfl hw htype]
        rfl
    | bool | int | float | list | range => cases hkind

/-- A value that is not null compares with every scalar but null. -/
theorem Meets.compare?_eq_none_iff (h : Meets convert s actual x v) (hx : x.isNull = false)
    (hw : w ∈ scalarsOf v) (hb : scalar s op w = .ok b) :
    actual.compare? w.toJson = none ↔ w = .null := by
  obtain ⟨p, hp, rfl⟩ := bound_of_scalar hb
  have hkind := h.kind w hw
  rcases stored?_cases h.stored with
    ⟨rfl, rfl⟩ | ⟨c, rfl, rfl⟩ | ⟨i, hfits, rfl, rfl⟩ | ⟨t, rfl, rfl⟩
  · cases hx
  · cases w with
    | null => simp [Value.toJson, Json.Value.compare?]
    | bool d => simp [Value.toJson, Json.Value.compare?]
    | int | float | str | list | range => cases hkind
  · cases w with
    | null => simp [Value.toJson, Json.Value.compare?]
    | int j =>
      have hj : Json.fitsInt64 j = true := by
        simpa only [Value.InRange] using inRange_of_mem_scalarsOf h.inRange hw
      simp [Value.toJson, Json.Value.int, Json.Value.compare?, Json.Number.compare?,
        Json.Number.int64?, hfits, hj]
    | bool | float | str | list | range => cases hkind
  · cases w with
    | null => simp [Value.toJson, Json.Value.compare?]
    | str u => simp [Value.toJson, Json.Value.compare?]
    | bool | int | float | list | range => cases hkind

/-! ### Agreement of single operators -/

/-- Memory holds where the answer is true, and does not where it is false or unknown. -/
def Agrees (result : Except QueryError Bool) (t : Truth) : Prop :=
  result = .ok (decide (t = .holds))

theorem agrees_ok {c : Bool} {t : Truth} : Agrees (.ok c) t ↔ (c = true ↔ t = .holds) := by
  rw [Agrees, Except.ok.injEq, Bool.eq_iff_iff, decide_eq_true_eq]

theorem ordered_iff {j : Json.Value} {y : Param} (h : x.order? y = actual.compare? j)
    (wanted : Ordering → Bool) :
    ordered wanted actual j = true ↔ Sql.orderTruth wanted x y = .holds := by
  rw [ordered, Sql.orderTruth, h]
  cases actual.compare? j <;> simp

theorem ordered_isNe_iff {j : Json.Value} {y : Param} (h : x.order? y = actual.compare? j) :
    ordered Ordering.isNe actual j = true ↔ (Sql.orderTruth Ordering.isEq x y).not = .holds := by
  rw [ordered, Sql.orderTruth, h]
  cases actual.compare? j with
  | none => simp [Truth.not]
  | some order => cases order <;> simp [Ordering.isNe, Ordering.isEq]

variable {field : String} {cell : Sql.Column → Param} {c : Comparator} {t : Sql.Test}
  {negated : Bool}

theorem holdsScalar_agrees {wanted : Ordering → Bool} (h : Meets convert s actual x v)
    (hcell : cell s.column = x) (ht : scalarTest s op c v = .ok t)
    (hc : ∀ j y, x.order? y = actual.compare? j →
      (ordered wanted actual j = true ↔ c.truth x y = .holds)) :
    Agrees (holdsScalar field op wanted actual v) (t.truth convert cell) := by
  obtain ⟨b, hb, rfl⟩ := map_eq_ok.1 ht
  have hscalar := isScalar_of_scalar hb
  have hv : v ∈ scalarsOf v := by
    cases v with
    | list | range => cases hscalar
    | null | bool | int | float | str => exact List.mem_singleton_self _
  rw [holdsScalar, if_pos hscalar, agrees_ok, Sql.Test.truth, hcell]
  exact hc _ _ (h.order?_eval hv hb)

theorem holdsIdentity_agrees (h : Meets convert s actual x v) (hcell : cell s.column = x)
    (ht : identityTest s op negated v = .ok t) :
    Agrees (holdsIdentity field op negated actual v) (t.truth convert cell) := by
  cases v with
  | null =>
    cases ht
    rw [holdsIdentity, agrees_ok, Sql.Test.truth, hcell, Truth.ofBool_eq_holds,
      isNull_eq h.stored]
  | bool c =>
    cases ht
    rw [holdsIdentity, agrees_ok, Sql.Test.truth, hcell, Truth.ofBool_eq_holds]
    rcases stored?_cases h.stored with
      ⟨rfl, rfl⟩ | ⟨d, rfl, rfl⟩ | ⟨i, -, rfl, rfl⟩ | ⟨u, rfl, rfl⟩
    · rfl
    · cases c <;> cases d <;> rfl
    · rfl
    · rfl
  | int | float | str | list | range => cases ht

/-- With a pattern memory agrees unless there is a text to match and the pattern is too large. -/
theorem holdsPattern_agrees_iff {anyCase : Bool} (h : Meets convert s actual x v)
    (hcell : cell s.column = x)
    (hclosed : ∀ pattern, v = .str pattern → Sql.endsOpen pattern.toList = false)
    (hc : ∀ y, c.truth x y = .negateIf negated
      (Sql.likeTruth (if anyCase then Casing.same else fun a b => a == b) x y))
    (hop : ∀ pattern, isTooLarge op (.str pattern)
      = Pattern.isTooLarge anyCase (Pattern.items pattern.toList))
    (ht : patternTest s op c v = .ok t) :
    Agrees (holdsPattern field op anyCase negated actual v) (t.truth convert cell) ↔
      ¬(actual.text?.isSome = true ∧ isTooLarge op v = true) := by
  cases v with
  | null | bool | int | float | list | range => cases ht
  | str pattern =>
    cases ht
    simp only [Sql.Test.truth, hcell, hc, hop, Sql.Bound.eval]
    rcases stored?_cases h.stored with
      ⟨rfl, rfl⟩ | ⟨d, rfl, rfl⟩ | ⟨i, -, rfl, rfl⟩ | ⟨u, rfl, rfl⟩
    · -- null is neither like the pattern nor unlike it
      cases negated <;>
        simp [holdsPattern, Value.text?, Json.Value.text?, Sql.likeTruth, Truth.negateIf,
          Truth.not, agrees_ok]
    · exact absurd (h.kind _ (List.mem_singleton_self _)) not_false
    · exact absurd (h.kind _ (List.mem_singleton_self _)) not_false
    · simp only [holdsPattern_str, Json.Value.text?, Option.isSome_some, true_and, Sql.likeTruth,
        Truth.negateIf_ofBool, Sql.likes_eq_accepts (hclosed pattern rfl)]
      cases Pattern.isTooLarge anyCase (Pattern.items pattern.toList) with
      | true => simp [Agrees]
      | false => simp [agrees_ok]

/-- The answer to an equality is unknown only for null. -/
theorem Meets.eq_truth_fails_iff (h : Meets convert s actual x v) (hx : x.isNull = false)
    {b : Sql.Bound} (hw : w ∈ scalarsOf v) (hb : scalar s op w = .ok b) :
    Comparator.eq.truth x (b.eval convert) = .fails ↔
      w ≠ .null ∧ ordered Ordering.isEq actual w.toJson = false := by
  rw [Comparator.truth, Sql.orderTruth, h.order?_eval hw hb, ordered]
  have hnone := h.compare?_eq_none_iff hx hw hb
  cases hcompare : actual.compare? w.toJson with
  | none => simp [hnone.1 hcompare]
  | some order =>
    have hne : w ≠ .null := fun hnull => by simp [hnone.2 hnull] at hcompare
    cases order <;> simp [hne, Truth.ofBool, Ordering.isEq]

theorem scalars_forall₂ : ∀ {items : List Value} {bs : List Sql.Bound},
    scalars s op items = .ok bs → List.Forall₂ (fun w b => scalar s op w = .ok b) items bs
  | [], _, h => by cases h; exact .nil
  | w :: rest, _, h => by
    simp only [scalars, bind_eq_ok, pure_eq_ok] at h
    obtain ⟨b, hb, bs, hbs, rfl⟩ := h
    exact .cons hb (scalars_forall₂ hbs)

theorem members_inv {bs : List Sql.Bound} (h : members s op v = .ok bs) :
    ∃ w rest, v = .list (w :: rest) ∧ scalars s op (w :: rest) = .ok bs := by
  match v with
  | .list (w :: rest) => exact ⟨w, rest, rfl, h⟩
  | .list [] | .null | .bool _ | .int _ | .float _ | .str _ | .range _ _ => simp [members] at h

/-- One of the equalities is true just when an item compares as equal. -/
theorem Meets.any_holds_iff {items : List Value} {bs : List Sql.Bound}
    (h : Meets convert s actual x v) (hsub : ∀ w ∈ items, w ∈ scalarsOf v)
    (hbs : List.Forall₂ (fun w b => scalar s op w = .ok b) items bs) :
    Truth.any (bs.map fun b => Comparator.eq.truth x (b.eval convert)) = .holds ↔
      (items.any fun w => ordered Ordering.isEq actual w.toJson) = true := by
  rw [Truth.any_eq_holds]
  induction hbs with
  | nil => simp
  | cons hb _ ih =>
    have hw := ordered_iff (h.order?_eval (hsub _ (List.mem_cons_self ..)) hb) Ordering.isEq
    rw [List.map_cons, List.mem_cons, ih fun w hw => hsub w (List.mem_cons_of_mem _ hw),
      List.any_cons, Bool.or_eq_true, hw, Comparator.truth]
    exact or_congr_left eq_comm

/-- All of the equalities are false just when no item is null and none compares as equal. -/
theorem Meets.any_fails_iff {items : List Value} {bs : List Sql.Bound}
    (h : Meets convert s actual x v) (hx : x.isNull = false)
    (hsub : ∀ w ∈ items, w ∈ scalarsOf v)
    (hbs : List.Forall₂ (fun w b => scalar s op w = .ok b) items bs) :
    Truth.any (bs.map fun b => Comparator.eq.truth x (b.eval convert)) = .fails ↔
      ∀ w ∈ items, w ≠ .null ∧ ordered Ordering.isEq actual w.toJson = false := by
  rw [Truth.any_eq_fails]
  induction hbs with
  | nil => simp
  | cons hb _ ih =>
    have hw := h.eq_truth_fails_iff hx (hsub _ (List.mem_cons_self ..)) hb
    rw [List.map_cons, List.forall_mem_cons, List.forall_mem_cons, hw,
      ih fun w hw => hsub w (List.mem_cons_of_mem _ hw)]

theorem holdsMember_agrees (h : Meets convert s actual x v) (hcell : cell s.column = x)
    (ht : (members s op v).map (.inList false s.column) = .ok t) :
    Agrees (holdsMember field op false actual v) (t.truth convert cell) := by
  obtain ⟨bs, hbs, rfl⟩ := map_eq_ok.1 ht
  obtain ⟨w, rest, rfl, hscalars⟩ := members_inv hbs
  have hiff := h.any_holds_iff (fun _ hw => hw) (scalars_forall₂ hscalars)
  simp only [holdsMember, Sql.Test.truth, hcell, Truth.negateIf, Bool.false_eq_true, if_false]
  cases hnull : actual.isNull with
  | true =>
    -- null compares with nothing, so no equality is true
    have hnone : ∀ j : Json.Value, actual.compare? j = none := by
      cases actual with
      | null => exact fun j => by cases j <;> rfl
      | bool | num | str | arr | obj => cases hnull
    rw [if_pos rfl, agrees_ok, hiff]
    simp [ordered, hnone]
  | false =>
    rw [if_neg Bool.false_ne_true, agrees_ok, hiff, Bool.bne_false]
    rfl

/-- Outside of a list memory agrees unless the list holds null and no equal item. -/
theorem holdsMember_agrees_iff (h : Meets convert s actual x v) (hcell : cell s.column = x)
    (ht : (members s op v).map (.inList true s.column) = .ok t) :
    Agrees (holdsMember field op true actual v) (t.truth convert cell) ↔
      ¬Deviates .notIn actual v := by
  obtain ⟨bs, hbs, rfl⟩ := map_eq_ok.1 ht
  obtain ⟨w, rest, rfl, hscalars⟩ := members_inv hbs
  have hnot : ∀ r : Truth, r.not = .holds ↔ r = .fails := by intro r; cases r <;> simp [Truth.not]
  simp only [holdsMember, Sql.Test.truth, hcell, Truth.negateIf, if_true, Deviates]
  cases hnull : actual.isNull with
  | true =>
    -- the first equality is unknown, so negation leaves the answer unknown at best
    have hx : x = .null := by
      rcases stored?_cases h.stored with
        ⟨rfl, rfl⟩ | ⟨d, rfl, rfl⟩ | ⟨i, -, rfl, rfl⟩ | ⟨u, rfl, rfl⟩
      · rfl
      all_goals cases hnull
    subst hx
    have hfirst : ∀ y, Comparator.eq.truth .null y = .unknown := by intro y; cases y <;> rfl
    cases scalars_forall₂ hscalars with
    | cons hb hrest => simp [agrees_ok, hnot, Truth.any_eq_fails, hfirst]
  | false =>
    have hx : x.isNull = false := by rw [← isNull_eq h.stored, hnull]
    rw [if_neg Bool.false_ne_true, agrees_ok, hnot,
      h.any_fails_iff hx (fun _ hw => hw) (scalars_forall₂ hscalars)]
    generalize w :: rest = items
    have hfound : ((items.any fun v => ordered Ordering.isEq actual v.toJson) != true) = true ↔
        ∀ w ∈ items, ordered Ordering.isEq actual w.toJson = false := by simp
    rw [hfound]
    constructor
    · rintro hiff ⟨-, hmem, hnone⟩
      exact (hiff.1 hnone .null hmem).1 rfl
    · intro hdev
      refine ⟨fun hnone w hw => ⟨?_, hnone w hw⟩, fun hall w hw => (hall w hw).2⟩
      rintro rfl
      exact hdev ⟨rfl, hw, hnone⟩

theorem bounds_inv {bs : Sql.Bound × Sql.Bound} (h : bounds s op v = .ok bs) :
    ∃ lower upper, v = .range lower upper ∧ scalar s op lower = .ok bs.1 ∧
      scalar s op upper = .ok bs.2 := by
  match v with
  | .range lower upper =>
    simp only [bounds, bind_eq_ok, pure_eq_ok] at h
    obtain ⟨l, hl, u, hu, rfl⟩ := h
    exact ⟨lower, upper, rfl, hl, hu⟩
  | .null | .bool _ | .int _ | .float _ | .str _ | .list _ => cases h

theorem isNull_eq_false_of_compare? {j : Json.Value} {order : Ordering}
    (hx : stored? actual = some x) (h : actual.compare? j = some order) : x.isNull = false := by
  rw [← isNull_eq hx]
  cases actual with
  | null => cases j <;> cases h
  | bool | num | str | arr | obj => rfl

theorem holdsBetween_agrees (h : Meets convert s actual x v) (hcell : cell s.column = x)
    (ht : (bounds s op v).map (fun b => .between false s.column b.1 b.2) = .ok t) :
    Agrees (holdsBetween field op false actual v) (t.truth convert cell) := by
  obtain ⟨bs, hbs, rfl⟩ := map_eq_ok.1 ht
  obtain ⟨lower, upper, rfl, hl, hu⟩ := bounds_inv hbs
  have hlower := h.order?_eval (List.mem_cons_self ..) hl
  have hupper := h.order?_eval (List.mem_cons_of_mem _ (List.mem_cons_self ..)) hu
  simp only [holdsBetween, Sql.Test.truth, hcell, Comparator.truth, Sql.orderTruth, hlower, hupper]
  cases actual.compare? lower.toJson with
  | none => cases actual.compare? upper.toJson with
    | none => simp [agrees_ok, Truth.negateIf, Truth.and]
    | some b => cases b <;> simp [agrees_ok, Truth.negateIf, Truth.and, Truth.ofBool, Ordering.isLE]
  | some a => cases actual.compare? upper.toJson with
    | none => cases a <;> simp [agrees_ok, Truth.negateIf, Truth.and, Truth.ofBool, Ordering.isGE]
    | some b => simp [agrees_ok, Truth.negateIf]

/-- Outside of a range memory agrees unless one bound is null and the other excludes the value. -/
theorem holdsBetween_agrees_iff (h : Meets convert s actual x v) (hcell : cell s.column = x)
    (ht : (bounds s op v).map (fun b => .between true s.column b.1 b.2) = .ok t) :
    Agrees (holdsBetween field op true actual v) (t.truth convert cell) ↔
      ¬Deviates .notBetween actual v := by
  obtain ⟨bs, hbs, rfl⟩ := map_eq_ok.1 ht
  obtain ⟨lower, upper, rfl, hl, hu⟩ := bounds_inv hbs
  have hmeml : lower ∈ scalarsOf (.range lower upper) := List.mem_cons_self ..
  have hmemu : upper ∈ scalarsOf (.range lower upper) :=
    List.mem_cons_of_mem _ (List.mem_cons_self ..)
  have hlower := h.order?_eval hmeml hl
  have hupper := h.order?_eval hmemu hu
  have hnulls : Deviates .notBetween actual (.range lower upper) ↔
      (actual.compare? lower.toJson = none ∧ actual.compare? upper.toJson = some .gt) ∨
        (actual.compare? upper.toJson = none ∧ actual.compare? lower.toJson = some .lt) := by
    refine or_congr (and_congr_left fun hgt => ?_) (and_congr_left fun hlt => ?_)
    · exact (h.compare?_eq_none_iff (isNull_eq_false_of_compare? h.stored hgt) hmeml hl).symm
    · exact (h.compare?_eq_none_iff (isNull_eq_false_of_compare? h.stored hlt) hmemu hu).symm
  rw [hnulls]
  simp only [holdsBetween, Sql.Test.truth, hcell, Comparator.truth, Sql.orderTruth, hlower, hupper]
  cases actual.compare? lower.toJson with
  | none => cases actual.compare? upper.toJson with
    | none => simp [agrees_ok, Truth.negateIf, Truth.and, Truth.not]
    | some b =>
      cases b <;>
        simp [agrees_ok, Truth.negateIf, Truth.and, Truth.not, Truth.ofBool, Ordering.isLE]
  | some a => cases actual.compare? upper.toJson with
    | none =>
      cases a <;>
        simp [agrees_ok, Truth.negateIf, Truth.and, Truth.not, Truth.ofBool, Ordering.isGE]
    | some b => simp [agrees_ok, Truth.negateIf]

end

/-! ### Agreement of every operator -/

/-- Whether the operator takes a pattern. -/
def takesPattern : Operator → Bool
  | .like | .notLike | .iLike | .notILike => true
  | _ => false

theorem isTooLarge_eq_false {op : Operator} (h : takesPattern op = false) (v : Value) :
    isTooLarge op v = false := by
  cases op with
  | like | notLike | iLike | notILike => cases h
  | _ => cases v <;> rfl

theorem not_deviates {op : Operator} (hp : takesPattern op = false) (hin : op ≠ .notIn)
    (hbetween : op ≠ .notBetween) (actual : Json.Value) (v : Value) : ¬Deviates op actual v := by
  have hsize := isTooLarge_eq_false hp v
  cases op with
  | notIn => exact absurd rfl hin
  | notBetween => exact absurd rfl hbetween
  | _ => exact fun hdev => Bool.false_ne_true (hsize.symm.trans hdev.2)

theorem deviates_pattern {op : Operator} (h : takesPattern op = true) {actual : Json.Value}
    {v : Value} :
    (actual.text?.isSome = true ∧ isTooLarge op v = true) = Deviates op actual v := by
  cases op with
  | like | notLike | iLike | notILike => rfl
  | _ => cases h

/-- An operator agrees with the test that is made of it, on stored values and scalars of one kind
and with patterns that do not end in a lone backslash, just where it does not deviate. -/
theorem holds_agrees_iff {convert : String → Param → Param} {s : Subject} {op : Operator}
    {actual : Json.Value} {x : Param} {v : Value} {t : Sql.Test} {cell : Sql.Column → Param}
    (h : Meets convert s actual x v) (hcell : cell s.column = x)
    (hclosed : ∀ pattern, takesPattern op = true → v = .str pattern →
      Sql.endsOpen pattern.toList = false)
    (ht : test s op v = .ok t) (field : String) :
    Agrees (holds field op actual v) (t.truth convert cell) ↔ ¬Deviates op actual v := by
  have hplain : Agrees (holds field op actual v) (t.truth convert cell) →
      ¬Deviates op actual v →
      (Agrees (holds field op actual v) (t.truth convert cell) ↔ ¬Deviates op actual v) :=
    fun hagrees hdev => iff_of_true hagrees hdev
  cases op with
  | eq | gt | gte | lt | lte =>
    exact hplain (holdsScalar_agrees h hcell ht fun j y hxy => ordered_iff hxy _)
      (not_deviates (by decide) (by decide) (by decide) _ _)
  | neq =>
    exact hplain (holdsScalar_agrees h hcell ht fun j y hxy => ordered_isNe_iff hxy)
      (not_deviates (by decide) (by decide) (by decide) _ _)
  | like | notLike | iLike | notILike =>
    rw [← deviates_pattern rfl]
    exact holdsPattern_agrees_iff h hcell (hclosed · rfl) (fun _ => rfl) (fun _ => rfl) ht
  | is | isNot =>
    exact hplain (holdsIdentity_agrees h hcell ht)
      (not_deviates (by decide) (by decide) (by decide) _ _)
  | «in» =>
    exact hplain (holdsMember_agrees h hcell ht)
      (not_deviates (by decide) (by decide) (by decide) _ _)
  | notIn => exact holdsMember_agrees_iff h hcell ht
  | between =>
    exact hplain (holdsBetween_agrees h hcell ht)
      (not_deviates (by decide) (by decide) (by decide) _ _)
  | notBetween => exact holdsBetween_agrees_iff h hcell ht
  | custom => cases ht

/-- Outside of a list the answers differ once the list holds null. -/
theorem holds_agrees_iff_notIn :
    let s : Subject := ⟨⟨"task", "n"⟩, some .integer⟩
    let truth := Sql.Test.truth (fun _ p => p) (fun _ => .int 2)
    Agrees (holds "n" .notIn (.int 2) (.list [.int 1, .int 3]))
        (truth (.inList true s.column [⟨.int 1, none⟩, ⟨.int 3, none⟩])) ∧
      ¬Agrees (holds "n" .notIn (.int 2) (.list [.int 1, .null]))
        (truth (.inList true s.column [⟨.int 1, none⟩, ⟨.null, none⟩])) := by
  intro s truth
  have hmeets : ∀ w : Value, w = .int 3 ∨ w = .null →
      Meets (fun _ p => p) s (.int 2) (.int 2) (.list [.int 1, w]) := by
    intro w hw
    refine ⟨rfl, ?_, ?_, fun _ _ _ _ _ _ => rfl⟩
    · rcases hw with rfl | rfl <;> simp only [Value.InRange, Value.InRangeItems] <;> decide
    · rcases hw with rfl | rfl <;> simp [scalarsOf, SameKind]
  have hclosed : ∀ w : Value, ∀ pattern, takesPattern .notIn = true →
      Value.list [.int 1, w] = .str pattern → Sql.endsOpen pattern.toList = false :=
    fun _ _ h => absurd h (by decide)
  constructor
  · refine (holds_agrees_iff (hmeets _ (.inl rfl)) rfl (hclosed _) rfl "n").2 ?_
    simp [Deviates]
  · refine fun h => (holds_agrees_iff (hmeets _ (.inr rfl)) rfl (hclosed _) rfl "n").1 h ?_
    refine ⟨rfl, by simp, ?_⟩
    simp only [List.forall_mem_cons, List.not_mem_nil, false_imp_iff, implies_true, and_true]
    exact ⟨by decide, by decide⟩

end Comparison
end RowQuery
