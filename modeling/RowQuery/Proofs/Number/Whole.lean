import RowQuery.Proofs.Number.Shortest
/-!
The shortest decimal of a whole number is whole.

The whole numbers are a grid, and a whole number lies on it. So the search stops there at the latest
and finds a decimal without places behind the point. Below `2 ^ 53` the reals that round to a whole
number are less than one away from it, so that decimal is the number.
-/

namespace RowQuery

namespace Decimal

/-- The whole number that a decimal without places behind the point stands for. -/
def whole (d : Decimal) : Nat := d.digits * 10 ^ d.exp.toNat

variable {d : Decimal}

theorem exp_le_exp_trim (fuel : Nat) : d.exp ≤ (d.trim fuel).exp := by
  induction fuel generalizing d with
  | zero => exact Int.le_refl _
  | succ fuel ih =>
    rw [trim]
    split
    · exact Int.le_trans (Int.le_add_one (Int.le_refl _)) (ih (d := ⟨d.digits / 10, d.exp + 1⟩))
    · exact Int.le_refl _

theorem whole_trim (fuel : Nat) (h : 0 ≤ d.exp) : (d.trim fuel).whole = d.whole := by
  induction fuel generalizing d with
  | zero => rfl
  | succ fuel ih =>
    rw [trim]
    split
    · next hd =>
      rw [ih (d := ⟨d.digits / 10, d.exp + 1⟩) (Int.le_add_one h), whole, whole]
      rw [show (d.exp + 1).toNat = d.exp.toNat + 1 by omega, Nat.pow_succ']
      rw [← Nat.mul_assoc, Nat.div_mul_cancel (Nat.dvd_of_mod_eq_zero hd.2)]
    · rfl

end Decimal

namespace Binary64

/-! ### Whole floats -/

theorem roundDiv_mul (k : Nat) {den : Nat} (hden : 0 < den) : roundDiv (k * den) den = k := by
  simp only [roundDiv, Nat.mul_div_cancel k hden, Nat.mul_mod_left]
  rw [if_neg (by omega)]

theorem lt_two_pow_of_lt_units {q : Nat} (h : q < 2 ^ 53 * unitsPerOne) :
    q < 2 ^ (53 + oneExp) :=
  h.trans_eq (by rw [unitsPerOne_eq, Nat.pow_add])

theorem log2_lt_of_lt_units {q : Nat} (h : q < 2 ^ 53 * unitsPerOne) : q.log2 < 53 + oneExp :=
  log2_lt_of_lt (Nat.lt_of_lt_of_le (by decide) (Nat.le_add_right 53 _)) (lt_two_pow_of_lt_units h)

/-- A float near a natural number is whole, and is that number if 53 bits hold it. -/
theorem exists_whole_of_ofRatio? {negative : Bool} {n : Nat} {x : Binary64}
    (h : ofRatio? negative n 1 = some x) :
    ∃ m, x.magnitude = m * unitsPerOne ∧ (n < 2 ^ 53 → m = n) := by
  rw [ofRatio?] at h
  rw [magnitude_of_ofUnits? h, Nat.div_one, Nat.one_mul]
  generalize hexp : (n * unitsPerOne).log2 - 52 = exp
  rcases Nat.lt_or_ge oneExp exp with hlarge | hsmall
  · refine ⟨roundDiv (n * unitsPerOne) (2 ^ exp) * 2 ^ (exp - oneExp), ?_, fun hn => ?_⟩
    · rw [unitsPerOne_eq, Nat.mul_assoc, ← Nat.pow_add, Nat.sub_add_cancel (Nat.le_of_lt hlarge)]
    · have hlog := log2_lt_of_lt_units (Nat.mul_lt_mul_of_pos_right hn unitsPerOne_pos)
      omega
  · -- every unit of the last place is a part of one, so nothing is rounded
    refine ⟨n, ?_, fun _ => rfl⟩
    have hunit : unitsPerOne = 2 ^ (oneExp - exp) * 2 ^ exp := by
      rw [unitsPerOne_eq, ← Nat.pow_add, Nat.sub_add_cancel hsmall]
    rw [hunit, ← Nat.mul_assoc, roundDiv_mul _ (Nat.two_pow_pos exp)]

/-- An integer that is not zero is not rounded to zero. -/
theorem mant_ne_zero_of_ofInt? {i : Int} {x : Binary64} (h : ofInt? i = some x) (hi : i ≠ 0) :
    x.mant ≠ 0 := by
  rw [ofInt?, ofRatio?] at h
  have hone : unitsPerOne ≤ x.magnitude := by
    rw [unitsPerOne_eq]
    refine two_pow_le_magnitude h Nat.one_pos ?_
    rw [Nat.mul_one, ← unitsPerOne_eq]
    exact Nat.le_mul_of_pos_left _ (Int.natAbs_pos.2 hi)
  intro hmant
  rw [magnitude, hmant, Nat.zero_mul] at hone
  exact absurd unitsPerOne_pos (Nat.not_lt.2 hone)

variable {x : Binary64} {m : Nat} (tie : Tie)

theorem magnitude_lt_of_lt (hx : x.magnitude = m * unitsPerOne) (hm : m < 2 ^ 53) :
    x.magnitude < 2 ^ 53 * unitsPerOne := by
  rw [hx]
  exact Nat.mul_lt_mul_of_pos_right hm unitsPerOne_pos

/-- The units of a whole float below `2 ^ 53` are parts of one. -/
theorem two_pow_exp_le (hx : x.magnitude = m * unitsPerOne) (hm : m < 2 ^ 53) :
    2 ^ x.exp ≤ unitsPerOne := by
  rw [unitsPerOne_eq]
  refine Nat.pow_le_pow_right (by decide) ?_
  obtain ⟨-, hexp | hmant, -⟩ := x.normal
  · omega
  · have hlt : 2 ^ (52 + x.exp) < 2 ^ (53 + oneExp) :=
      calc 2 ^ (52 + x.exp) = 2 ^ 52 * 2 ^ x.exp := Nat.pow_add ..
        _ ≤ x.mant * 2 ^ x.exp := Nat.mul_le_mul_right _ hmant
        _ < 2 ^ (53 + oneExp) := lt_two_pow_of_lt_units (magnitude_lt_of_lt hx hm)
    have hexp := (Nat.pow_lt_pow_iff_right (show 1 < 2 by decide)).1 hlt
    omega

/-! ### The search on whole numbers -/

theorem low_lt_value (hmant : x.mant ≠ 0) : x.interval.low < x.interval.value := by
  refine Nat.mul_lt_mul_of_pos_right ?_ (Nat.two_pow_pos _)
  split <;> omega

theorem value_le_low_add (x : Binary64) : x.interval.value ≤ x.interval.low + 2 * 2 ^ x.exp := by
  rw [interval, ← Nat.add_mul]
  refine Nat.mul_le_mul_right _ ?_
  split <;> omega

theorem high_eq (x : Binary64) : x.interval.high = x.interval.value + 2 * 2 ^ x.exp :=
  Nat.add_mul ..

/-- A whole number lies on the grid of whole numbers. -/
theorem exists_nearest?_zero (hx : x.magnitude = m * unitsPerOne) (hmant : x.mant ≠ 0) :
    ∃ point, (Grid.ofExponent 0).nearest? tie x.interval = some point := by
  have hvalue : x.interval.value * (Grid.ofExponent 0).scale = m * (Grid.ofExponent 0).step := by
    simp only [Grid.ofExponent, value_interval, hx, Int.neg_zero, Int.toNat_zero, Nat.pow_zero]
    ring
  have hstep := Grid.step_pos 0
  have hscale : (Grid.ofExponent 0).scale = 1 := rfl
  have hhits : (Grid.ofExponent 0).hits x.interval m = true := by
    have hlow := low_lt_value hmant
    have hhigh := high_eq x
    have hunit : 0 < 2 ^ x.exp := Nat.two_pow_pos _
    rw [Grid.hits, ← hvalue, hscale]
    split <;> simp only [Bool.and_eq_true, decide_eq_true_eq] <;> omega
  simp only [Grid.nearest?, hvalue, Nat.mul_div_cancel m hstep, Nat.mul_mod_left, hhits,
    Nat.mul_zero, hstep, if_true]
  cases (Grid.ofExponent 0).hits x.interval (m + 1)
  · exact ⟨m, rfl⟩
  · exact ⟨m, rfl⟩

section
variable {tie} {i : Interval} {point : Nat}
  (hzero : (Grid.ofExponent 0).nearest? tie i = some point)
include hzero

theorem exp_ne_zero_of_nearest? {exp : Int} (h : (Grid.ofExponent exp).nearest? tie i = none) :
    exp ≠ 0 := by
  rintro rfl
  rw [hzero] at h
  cases h

/-- The search does not go below the grid of whole numbers. -/
theorem exp_search_nonneg : ∀ (fuel : Nat) (exp : Int), 0 ≤ exp →
    0 ≤ (search tie i fuel exp).exp
  | 0, _, hexp => hexp
  | fuel + 1, exp, hexp => by
    rw [search]
    split
    · exact hexp
    · next hnone =>
      have hne := exp_ne_zero_of_nearest? hzero hnone
      exact exp_search_nonneg fuel (exp - 1) (by omega)

/-- A search that starts few enough places before the point ends on a grid point. -/
theorem hits_search : ∀ (fuel : Nat) (exp : Int), 0 ≤ exp → exp < fuel →
    (Grid.ofExponent (search tie i fuel exp).exp).hits i (search tie i fuel exp).digits = true
  | 0, exp, hexp, hfuel => absurd hfuel (Int.not_lt.2 hexp)
  | fuel + 1, exp, hexp, hfuel => by
    rw [search]
    split
    · next hpoint => exact hits_of_nearest? hpoint
    · next hnone =>
      have hne := exp_ne_zero_of_nearest? hzero hnone
      exact hits_search fuel (exp - 1) (by omega) (by omega)

end

theorem decimalExponent_nonneg (h : unitsPerOne ≤ x.magnitude) : 0 ≤ x.decimalExponent := by
  have hne : x.magnitude ≠ 0 := Nat.ne_of_gt (Nat.lt_of_lt_of_le unitsPerOne_pos h)
  have hlog : oneExp ≤ x.magnitude.log2 := (Nat.le_log2 hne).2 (unitsPerOne_eq ▸ h)
  have hone : oneExp = 1074 := rfl
  simp only [decimalExponent, Int.fdiv_eq_ediv_of_nonneg _ (show (0 : Int) ≤ 100000 by decide)]
  split <;> omega

theorem decimalExponent_lt (h : x.magnitude < 2 ^ 53 * unitsPerOne) :
    x.decimalExponent < 17 := by
  rcases decimalExponent_spec x with hreached | hestimate
  · refine Int.not_le.1 fun hle => ?_
    obtain ⟨k, hk⟩ := Int.eq_ofNat_of_zero_le (show 0 ≤ x.decimalExponent by omega)
    rw [hk] at hreached hle
    simp only [Grid.ofExponent, Int.toNat_natCast, Int.toNat_neg_natCast, Nat.pow_zero, Nat.mul_one,
      value_interval] at hreached
    have hpow : 10 ^ 17 ≤ 10 ^ k := Nat.pow_le_pow_right (by decide) (by omega)
    have hunits : 10 ^ 17 * unitsPerOne ≤ 10 ^ k * unitsPerOne := Nat.mul_le_mul_right _ hpow
    rw [show 4 * unitsPerOne * 10 ^ k = 4 * (10 ^ k * unitsPerOne) by ring] at hreached
    omega
  · have hlog := log2_lt_of_lt_units h
    have hone : oneExp = 1074 := rfl
    omega

/-! ### The shortest decimal -/

theorem mant_eq_zero_iff (hx : x.magnitude = m * unitsPerOne) : x.mant = 0 ↔ m = 0 := by
  have hpow : 2 ^ x.exp ≠ 0 := Nat.ne_of_gt (Nat.two_pow_pos _)
  have hunits : unitsPerOne ≠ 0 := Nat.ne_of_gt unitsPerOne_pos
  constructor
  · intro hmant
    rw [magnitude, hmant, Nat.zero_mul] at hx
    exact (Nat.mul_eq_zero.1 hx.symm).resolve_right hunits
  · intro hm
    rw [magnitude, hm, Nat.zero_mul] at hx
    exact (Nat.mul_eq_zero.1 hx).resolve_right hpow

theorem unitsPerOne_le_magnitude (hx : x.magnitude = m * unitsPerOne) (hmant : x.mant ≠ 0) :
    unitsPerOne ≤ x.magnitude := by
  have hm : m ≠ 0 := fun h => hmant ((mant_eq_zero_iff hx).2 h)
  exact hx ▸ Nat.le_mul_of_pos_left _ (Nat.pos_of_ne_zero hm)

theorem exp_shortest_nonneg (hx : x.magnitude = m * unitsPerOne) : 0 ≤ (x.shortest tie).exp := by
  rw [shortest]
  split
  · exact Int.le_refl _
  · next hmant =>
    obtain ⟨point, hzero⟩ := exists_nearest?_zero tie hx hmant
    refine Int.le_trans ?_ (Decimal.exp_le_exp_trim 17)
    exact exp_search_nonneg hzero 17 _ (decimalExponent_nonneg (unitsPerOne_le_magnitude hx hmant))

/-- The shortest decimal of a whole number that is not zero is not zero. -/
theorem whole_shortest_ne_zero (hx : x.magnitude = m * unitsPerOne) (hmant : x.mant ≠ 0) :
    (x.shortest tie).whole ≠ 0 := by
  refine Nat.mul_ne_zero (fun hdigits => ?_) (Nat.ne_of_gt (Nat.pow_pos (by decide)))
  exact absurd (exp_shortest_neg tie hmant hdigits) (Int.not_lt.2 (exp_shortest_nonneg tie hx))

/-- A decimal without places behind the point in the scale of the interval. -/
theorem whole_mul_eq {d : Decimal} (h : 0 ≤ d.exp) :
    d.digits * (Grid.ofExponent d.exp).step = 4 * (d.whole * unitsPerOne) ∧
      (Grid.ofExponent d.exp).scale = 1 := by
  obtain ⟨k, hk⟩ := Int.eq_ofNat_of_zero_le h
  simp only [Grid.ofExponent, Decimal.whole, hk, Int.toNat_natCast, Int.toNat_neg_natCast,
    Nat.pow_zero, and_true]
  ring

/-- The shortest decimal of a whole number is at most twice as large. -/
theorem whole_shortest_le (hx : x.magnitude = m * unitsPerOne) :
    (x.shortest tie).whole ≤ 2 * m := by
  by_cases hmant : x.mant = 0
  · rw [shortest, if_pos hmant, Decimal.whole, Nat.zero_mul]
    exact Nat.zero_le _
  · obtain ⟨hwhole, hscale⟩ := whole_mul_eq (exp_shortest_nonneg tie hx)
    have hmost := atMost_shortest tie x
    rw [Decimal.AtMost, hwhole, hscale, Nat.mul_one, high_eq, value_interval] at hmost
    have hunit : 2 ^ x.exp ≤ x.magnitude := Nat.le_mul_of_pos_left _ (Nat.pos_of_ne_zero hmant)
    refine Nat.le_of_mul_le_mul_right ?_ unitsPerOne_pos
    rw [Nat.mul_assoc, ← hx]
    omega

/-- Below `2 ^ 53` the shortest decimal of a whole number is the number. -/
theorem whole_shortest_eq (hx : x.magnitude = m * unitsPerOne) (hm : m < 2 ^ 53) :
    (x.shortest tie).whole = m := by
  by_cases hmant : x.mant = 0
  · rw [shortest, if_pos hmant, (mant_eq_zero_iff hx).1 hmant]
    rfl
  · obtain ⟨point, hzero⟩ := exists_nearest?_zero tie hx hmant
    have hexp := decimalExponent_nonneg (unitsPerOne_le_magnitude hx hmant)
    have hlt := magnitude_lt_of_lt hx hm
    have hsearch := exp_search_nonneg hzero 17 _ hexp
    obtain ⟨hlow, hhigh⟩ := bounds_of_hits (hits_search hzero 17 _ hexp (decimalExponent_lt hlt))
    obtain ⟨hwhole, hscale⟩ := whole_mul_eq hsearch
    rw [hwhole, hscale, Nat.mul_one] at hlow hhigh
    rw [shortest, if_neg hmant, Decimal.whole_trim 17 hsearch]
    -- the decimal and the number are half of one apart at most
    have hunit := two_pow_exp_le hx hm
    have hvalue := value_interval x
    have habove := value_le_low_add x
    rw [high_eq] at hhigh
    rw [hx] at hvalue
    generalize (search tie x.interval 17 x.decimalExponent).whole = w at hlow hhigh ⊢
    have hpos := unitsPerOne_pos
    refine Nat.le_antisymm (Nat.not_lt.1 fun h => ?_) (Nat.not_lt.1 fun h => ?_)
    · have hstep : (m + 1) * unitsPerOne ≤ w * unitsPerOne := Nat.mul_le_mul_right _ h
      rw [Nat.add_mul, Nat.one_mul] at hstep
      omega
    · have hstep : (w + 1) * unitsPerOne ≤ m * unitsPerOne := Nat.mul_le_mul_right _ h
      rw [Nat.add_mul, Nat.one_mul] at hstep
      omega

end Binary64
end RowQuery
