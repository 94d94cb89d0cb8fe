import RowQuery.Number.Shortest
import RowQuery.Proofs.Number.Rounding
/-!
The shortest decimal of a number lies in its interval.

A decimal that the search finds is no larger than the upper end of the interval, and the decimal it
falls back to no larger than the number itself. Only a number below one may lose all its digits
there. The digits of a decimal make an integer below `10 ^ 38`.
-/

namespace RowQuery

open Binary64

namespace Decimal

/-- The decimal is no larger than so many quarters of a unit. -/
def AtMost (d : Decimal) (quarters : Nat) : Prop :=
  d.digits * (Grid.ofExponent d.exp).step ≤ quarters * (Grid.ofExponent d.exp).scale

variable {d : Decimal} {quarters : Nat}

theorem AtMost.of_le {n m : Nat} {e : Int} (h : AtMost ⟨m, e⟩ quarters) (hnm : n ≤ m) :
    AtMost ⟨n, e⟩ quarters :=
  Nat.le_trans (Nat.mul_le_mul_right _ hnm) h

theorem AtMost.mono {bound : Nat} (h : d.AtMost quarters) (hle : quarters ≤ bound) :
    d.AtMost bound :=
  Nat.le_trans h (Nat.mul_le_mul_right _ hle)

/-- A zero digit can be dropped. -/
theorem atMost_ten_mul {n : Nat} {e : Int} :
    AtMost ⟨10 * n, e⟩ quarters ↔ AtMost ⟨n, e + 1⟩ quarters := by
  simp only [AtMost, Grid.ofExponent]
  rcases Int.lt_or_le e 0 with he | he
  · obtain ⟨k, rfl⟩ : ∃ k : Nat, e = -(k + 1 : Nat) := ⟨(-e).toNat - 1, by omega⟩
    have hscale : (-(-((k + 1 : Nat) : Int) + 1)).toNat = k := by omega
    have hstep : (-((k + 1 : Nat) : Int) + 1).toNat = 0 := by omega
    rw [hscale, hstep, Int.neg_neg, Int.toNat_natCast, Int.toNat_neg_natCast, Nat.pow_succ,
      Nat.pow_zero, Nat.mul_one,
      show 10 * n * (4 * unitsPerOne) = n * (4 * unitsPerOne) * 10 by ring,
      show quarters * (10 ^ k * 10) = quarters * 10 ^ k * 10 by ring]
    exact Nat.mul_le_mul_right_iff (show 0 < 10 by decide)
  · obtain ⟨k, rfl⟩ := Int.eq_ofNat_of_zero_le he
    have hscale : (-((k : Int) + 1)).toNat = 0 := by omega
    have hstep : ((k : Int) + 1).toNat = k + 1 := by omega
    rw [hscale, hstep, Int.toNat_natCast, Int.toNat_neg_natCast, Nat.pow_succ,
      show n * (4 * unitsPerOne * (10 ^ k * 10)) = 10 * n * (4 * unitsPerOne * 10 ^ k) by ring]

theorem atMost_mul_ten_pow {n : Nat} {e : Int} (k : Nat) :
    AtMost ⟨n * 10 ^ k, e⟩ quarters ↔ AtMost ⟨n, e + k⟩ quarters := by
  induction k generalizing e with
  | zero => simp
  | succ k ih =>
    rw [Nat.pow_succ, show n * (10 ^ k * 10) = 10 * (n * 10 ^ k) by ring, atMost_ten_mul, ih,
      show e + 1 + (k : Int) = e + (k + 1 : Nat) by omega]

/-- Dropping zero digits does not change a decimal. -/
theorem atMost_trim (fuel : Nat) : (d.trim fuel).AtMost quarters ↔ d.AtMost quarters := by
  induction fuel generalizing d with
  | zero => exact Iff.rfl
  | succ fuel ih =>
    rw [trim]
    split
    · next hd =>
      rw [ih, ← atMost_ten_mul, Nat.mul_div_cancel' (Nat.dvd_of_mod_eq_zero hd.2)]
    · exact Iff.rfl

theorem trim_eq_of_digits_eq_zero {fuel : Nat} (h : (d.trim fuel).digits = 0) :
    d.trim fuel = d := by
  induction fuel generalizing d with
  | zero => rfl
  | succ fuel ih =>
    rw [trim] at h ⊢
    split
    · next hd =>
      rw [if_pos hd] at h
      have hdigits := congrArg digits (ih h)
      rw [h] at hdigits
      have hzero : d.digits / 10 = 0 := hdigits.symm
      omega
    · rfl

theorem AtMost.of_exp_le {n : Nat} {e f : Int} (h : AtMost ⟨n, f⟩ quarters) (hef : e ≤ f) :
    AtMost ⟨n, e⟩ quarters := by
  obtain ⟨k, hk⟩ := Int.le.dest hef
  rw [← hk, ← atMost_mul_ten_pow] at h
  exact h.of_le (Nat.le_mul_of_pos_right n (Nat.pow_pos (by decide)))

theorem digits_trim_le (fuel : Nat) : (d.trim fuel).digits ≤ d.digits := by
  induction fuel generalizing d with
  | zero => exact Nat.le_refl _
  | succ fuel ih =>
    rw [trim]
    split
    · exact Nat.le_trans ih (Nat.div_le_self _ _)
    · exact Nat.le_refl _

end Decimal

namespace Binary64

/-! ### Grid points -/

theorem hits_of_nearest? {g : Grid} {tie : Tie} {i : Interval} {point : Nat}
    (h : g.nearest? tie i = some point) : g.hits i point = true := by
  simp only [Grid.nearest?] at h
  cases hbelow : g.hits i (i.value * g.scale / g.step) <;>
    cases habove : g.hits i (i.value * g.scale / g.step + 1) <;> rw [hbelow, habove] at h <;>
    dsimp only at h
  · cases h
  · cases h
    exact habove
  · cases h
    exact hbelow
  · have hpoint : point = i.value * g.scale / g.step ∨
        point = i.value * g.scale / g.step + 1 := by
      split at h
      · exact .inl (Option.some.inj h).symm
      split at h
      · exact .inr (Option.some.inj h).symm
      cases tie
      · dsimp only at h
        split at h
        · exact .inl (Option.some.inj h).symm
        · exact .inr (Option.some.inj h).symm
      · exact .inr (Option.some.inj h).symm
    rcases hpoint with rfl | rfl
    · exact hbelow
    · exact habove

theorem bounds_of_hits {g : Grid} {i : Interval} {point : Nat} (h : g.hits i point = true) :
    i.low * g.scale ≤ point * g.step ∧ point * g.step ≤ i.high * g.scale := by
  unfold Grid.hits at h
  split at h <;> simp only [Bool.and_eq_true, decide_eq_true_eq] at h <;> omega

theorem Grid.step_pos (exp : Int) : 0 < (ofExponent exp).step :=
  Nat.mul_pos (Nat.mul_pos (by decide) unitsPerOne_pos) (Nat.pow_pos (by decide))

theorem Grid.scale_pos (exp : Int) : 0 < (ofExponent exp).scale := Nat.pow_pos (by decide)

/-! ### The search -/

section
variable {i : Interval} (tie : Tie)

theorem atMost_search (hi : i.value ≤ i.high) : ∀ (fuel : Nat) (exp : Int),
    (search tie i fuel exp).AtMost i.high
  | 0, exp => Nat.le_trans (Nat.div_mul_le_self ..) (Nat.mul_le_mul_right _ hi)
  | fuel + 1, exp => by
    rw [search]
    split
    · next point hpoint => exact (bounds_of_hits (hits_of_nearest? hpoint)).2
    · exact atMost_search hi fuel (exp - 1)

/-- A decimal without digits is found only on the grid that the search falls back to. -/
theorem exp_search_le (hlow : 0 < i.low) {bound : Int} : ∀ (fuel : Nat) (exp : Int),
    (bound < exp - fuel → (Grid.ofExponent (exp - fuel)).step
      ≤ i.value * (Grid.ofExponent (exp - fuel)).scale) →
    (search tie i fuel exp).digits = 0 → (search tie i fuel exp).exp ≤ bound
  | 0, exp, h, hzero => by
    refine Int.not_lt.1 fun hexp => ?_
    have hstep := h (by simpa [search] using hexp)
    rw [Int.natCast_zero, Int.sub_zero] at hstep
    exact absurd hzero (Nat.ne_of_gt (Nat.div_pos hstep (Grid.step_pos exp)))
  | fuel + 1, exp, h, hzero => by
    rw [search] at hzero ⊢
    split at hzero
    · next point hpoint =>
      have hpos := (bounds_of_hits (hits_of_nearest? hpoint)).1
      rw [show point = 0 from hzero, Nat.zero_mul] at hpos
      exact absurd (Nat.mul_pos hlow (Grid.scale_pos exp)) (Nat.not_lt.2 hpos)
    · refine exp_search_le hlow fuel (exp - 1) ?_ hzero
      rwa [show exp - 1 - (fuel : Int) = exp - (fuel + 1 : Nat) by omega]

end

/-! ### The decimal exponent -/

theorem magnitude_ne_zero {x : Binary64} (hx : x.mant ≠ 0) : x.magnitude ≠ 0 :=
  Nat.mul_ne_zero hx (Nat.ne_of_gt (Nat.two_pow_pos _))

theorem log2_magnitude_lt (x : Binary64) : x.magnitude.log2 < 53 + maxExp := by
  refine log2_lt_of_lt (by decide) (Nat.lt_of_mul_lt_mul_left (a := 2) ?_)
  exact Nat.lt_trans (two_mul_magnitude_lt x) overflow_lt

theorem ten_pow_le_two_pow {n m k : Nat} (hn : n ≤ 3 * k) (hm : 10 * k ≤ m) : 10 ^ n ≤ 2 ^ m :=
  calc 10 ^ n ≤ 10 ^ (3 * k) := Nat.pow_le_pow_right (by decide) hn
    _ = (10 ^ 3) ^ k := Nat.pow_mul ..
    _ ≤ (2 ^ 10) ^ k := Nat.pow_le_pow_left (by decide) k
    _ = 2 ^ (10 * k) := (Nat.pow_mul ..).symm
    _ ≤ 2 ^ m := Nat.pow_le_pow_right (by decide) hm

theorem value_interval (x : Binary64) : x.interval.value = 4 * x.magnitude :=
  Nat.mul_assoc ..

theorem value_le_high (x : Binary64) : x.interval.value ≤ x.interval.high :=
  Nat.mul_le_mul_right _ (Nat.le_add_right ..)

theorem low_pos {x : Binary64} (hx : x.mant ≠ 0) : 0 < x.interval.low := by
  refine Nat.mul_pos ?_ (Nat.two_pow_pos _)
  split <;> omega

/-- The exponent of the first digit is one that the number reaches, or is estimated by its binary
logarithm. -/
theorem decimalExponent_spec (x : Binary64) :
    (Grid.ofExponent x.decimalExponent).step
        ≤ x.interval.value * (Grid.ofExponent x.decimalExponent).scale ∨
      x.decimalExponent * 100000 ≤ ((x.magnitude.log2 : Int) - 1074) * 30103 := by
  simp only [decimalExponent, Int.fdiv_eq_ediv_of_nonneg _ (show (0 : Int) ≤ 100000 by decide)]
  split
  · next hnext => exact .inl hnext
  · exact .inr (by omega)

/-- A number that the grid seventeen places below its first digit is too coarse for is below one. -/
theorem step_le_of_decimalExponent {x : Binary64} (hx : x.mant ≠ 0) {n : Nat}
    (hn : (n : Int) = x.decimalExponent - 17) :
    (Grid.ofExponent n).step ≤ x.interval.value * (Grid.ofExponent n).scale := by
  have hlog := log2_magnitude_lt x
  have hmax : maxExp = 2045 := rfl
  simp only [Grid.ofExponent, Int.toNat_natCast, Int.toNat_neg_natCast, Nat.pow_zero, Nat.mul_one,
    value_interval]
  rcases decimalExponent_spec x with hreached | hestimate
  · rw [show x.decimalExponent = (n + 17 : Nat) by omega] at hreached
    simp only [Grid.ofExponent, Int.toNat_natCast, Int.toNat_neg_natCast, Nat.pow_zero, Nat.mul_one,
      value_interval] at hreached
    have hpow := Nat.pow_le_pow_right (show 0 < 10 by decide) (show n ≤ n + 17 by omega)
    exact Nat.le_trans (Nat.mul_le_mul_left _ hpow) hreached
  · have hpow : 10 ^ n ≤ 2 ^ (x.magnitude.log2 - oneExp) :=
      ten_pow_le_two_pow (k := (n + 2) / 3) (by omega) (by rw [oneExp]; omega)
    have hself : 2 ^ x.magnitude.log2 ≤ x.magnitude := Nat.log2_self_le (magnitude_ne_zero hx)
    calc 4 * unitsPerOne * 10 ^ n
        ≤ 4 * unitsPerOne * 2 ^ (x.magnitude.log2 - oneExp) := Nat.mul_le_mul_left _ hpow
      _ = 4 * 2 ^ x.magnitude.log2 := by
          rw [unitsPerOne_eq, Nat.mul_assoc, ← Nat.pow_add,
            Nat.add_sub_cancel' (by rw [oneExp]; omega)]
      _ ≤ 4 * x.magnitude := Nat.mul_le_mul_left _ hself

/-- All numbers but the two largest ones are secure. -/
theorem high_le_secure {x : Binary64} (hx : ¬ (2 ^ 53 - 2 ≤ x.mant ∧ x.exp = maxExp)) :
    x.interval.high ≤ secure := by
  obtain ⟨hmant, -, hexp⟩ := x.normal
  have hmax : maxExp = 2045 := rfl
  rw [interval, secure]
  rcases Nat.lt_or_ge x.exp maxExp with hlt | hge
  · have hpow : 2 * 2 ^ x.exp ≤ 2 ^ maxExp := by
      rw [← Nat.pow_succ']
      exact Nat.pow_le_pow_right (by decide) hlt
    calc (4 * x.mant + 2) * 2 ^ x.exp
        ≤ (2 ^ 55 - 10) * 2 * 2 ^ x.exp := Nat.mul_le_mul_right _ (by omega)
      _ = (2 ^ 55 - 10) * (2 * 2 ^ x.exp) := Nat.mul_assoc ..
      _ ≤ (2 ^ 55 - 10) * 2 ^ maxExp := Nat.mul_le_mul_left _ hpow
  · have heq : x.exp = maxExp := by omega
    rw [heq]
    exact Nat.mul_le_mul_right _ (by omega)

/-! ### The shortest decimal -/

theorem atMost_shortest (tie : Tie) (x : Binary64) : (x.shortest tie).AtMost x.interval.high := by
  rw [shortest]
  split
  · rw [Decimal.AtMost, Nat.zero_mul]
    exact Nat.zero_le _
  · exact (Decimal.atMost_trim 17).2 (atMost_search tie (value_le_high x) 17 _)

/-- Of a number that is not zero only a place behind the point is left without digits. -/
theorem exp_shortest_neg (tie : Tie) {x : Binary64} (hx : x.mant ≠ 0)
    (h : (x.shortest tie).digits = 0) : (x.shortest tie).exp < 0 := by
  rw [shortest, if_neg hx] at h ⊢
  have htrim := Decimal.trim_eq_of_digits_eq_zero h
  rw [htrim] at h ⊢
  refine Int.lt_of_le_sub_one (exp_search_le tie (low_pos hx) 17 _ (fun hexp => ?_) h)
  obtain ⟨n, hn⟩ := Int.eq_ofNat_of_zero_le (Int.add_one_le_of_lt hexp)
  rw [show x.decimalExponent - ((17 : Nat) : Int) = n by omega]
  exact step_le_of_decimalExponent hx (by omega)

/-- A decimal that has lost its digits has no zeros behind it either. -/
theorem exp_shortest_le (tie : Tie) {x : Binary64} (h : (x.shortest tie).digits = 0) :
    (x.shortest tie).exp ≤ 0 := by
  by_cases hx : x.mant = 0
  · rw [shortest, if_pos hx]
  · exact Int.le_of_lt (exp_shortest_neg tie hx h)

/-! ### How many digits -/

theorem le_exp_search (tie : Tie) (i : Interval) : ∀ (fuel : Nat) (exp : Int),
    exp - fuel ≤ (search tie i fuel exp).exp
  | 0, exp => by simp [search]
  | fuel + 1, exp => by
    rw [search]
    split
    · dsimp only
      omega
    · have := le_exp_search tie i fuel (exp - 1)
      omega

theorem two_pow_le_ten_pow {n m k : Nat} (hn : n ≤ 13 * k) (hm : 4 * k ≤ m) : 2 ^ n ≤ 10 ^ m :=
  calc 2 ^ n ≤ 2 ^ (13 * k) := Nat.pow_le_pow_right (by decide) hn
    _ = (2 ^ 13) ^ k := Nat.pow_mul ..
    _ ≤ (10 ^ 4) ^ k := Nat.pow_le_pow_left (by decide) k
    _ = 10 ^ (4 * k) := (Nat.pow_mul ..).symm
    _ ≤ 10 ^ m := Nat.pow_le_pow_right (by decide) hm

theorem lt_decimalExponent (x : Binary64) :
    ((x.magnitude.log2 : Int) - 1074) * 30103 < (x.decimalExponent + 1) * 100000 := by
  simp only [decimalExponent, Int.fdiv_eq_ediv_of_nonneg _ (show (0 : Int) ≤ 100000 by decide)]
  split <;> omega

theorem high_lt {x : Binary64} (hx : x.mant ≠ 0) :
    x.interval.high < 4 * 2 ^ (x.magnitude.log2 + 2) := by
  have hmagnitude : x.magnitude < 2 ^ (x.magnitude.log2 + 1) := Nat.lt_log2_self
  calc x.interval.high = (4 * x.mant + 2) * 2 ^ x.exp := rfl
    _ ≤ (8 * x.mant) * 2 ^ x.exp := Nat.mul_le_mul_right _ (by omega)
    _ = 8 * x.magnitude := Nat.mul_assoc ..
    _ < 8 * 2 ^ (x.magnitude.log2 + 1) := by omega
    _ = 4 * 2 ^ (x.magnitude.log2 + 2) := by rw [Nat.pow_succ _ (_ + 1)]; omega

/-- The first digit of a number is not far below where it is looked for. -/
theorem not_atMost_decimalExponent {x : Binary64} (hx : x.mant ≠ 0) :
    ¬ Decimal.AtMost ⟨1, x.decimalExponent + 21⟩ x.interval.high := by
  have hhigh := high_lt hx
  have hlower := lt_decimalExponent x
  have hlog := log2_magnitude_lt x
  have hmax : maxExp = 2045 := rfl
  rw [Decimal.AtMost, Nat.one_mul, Nat.not_le]
  simp only [Grid.ofExponent]
  rcases Int.lt_or_le (x.decimalExponent + 21) 0 with hneg | hnonneg
  · obtain ⟨n, hn⟩ : ∃ n : Nat, x.decimalExponent + 21 = -n :=
      ⟨(-(x.decimalExponent + 21)).toNat, by omega⟩
    have hpow : 10 ^ n ≤ 2 ^ (oneExp - (x.magnitude.log2 + 2)) :=
      ten_pow_le_two_pow (k := (n + 2) / 3) (by omega) (by rw [oneExp]; omega)
    rw [hn, Int.neg_neg, Int.toNat_natCast, Int.toNat_neg_natCast, Nat.pow_zero, Nat.mul_one,
      unitsPerOne_eq]
    calc x.interval.high * 10 ^ n
        < 4 * 2 ^ (x.magnitude.log2 + 2) * 10 ^ n :=
          Nat.mul_lt_mul_of_pos_right hhigh (Nat.pow_pos (by decide))
      _ ≤ 4 * 2 ^ (x.magnitude.log2 + 2) * 2 ^ (oneExp - (x.magnitude.log2 + 2)) :=
          Nat.mul_le_mul_left _ hpow
      _ = 4 * 2 ^ oneExp := by
          rw [Nat.mul_assoc, ← Nat.pow_add, Nat.add_sub_cancel' (by rw [oneExp]; omega)]
  · obtain ⟨n, hn⟩ := Int.eq_ofNat_of_zero_le hnonneg
    rw [hn, Int.toNat_natCast, Int.toNat_neg_natCast, Nat.pow_zero, Nat.mul_one, unitsPerOne_eq]
    have hpow : 2 ^ (x.magnitude.log2 + 2 - oneExp) ≤ 10 ^ n :=
      two_pow_le_ten_pow (k := (x.magnitude.log2 + 2 - oneExp + 12) / 13) (by omega)
        (by rw [oneExp] at *; omega)
    calc x.interval.high < 4 * 2 ^ (x.magnitude.log2 + 2) := hhigh
      _ ≤ 4 * 2 ^ (oneExp + (x.magnitude.log2 + 2 - oneExp)) :=
          Nat.mul_le_mul_left _ (Nat.pow_le_pow_right (by decide) (by omega))
      _ = 4 * 2 ^ oneExp * 2 ^ (x.magnitude.log2 + 2 - oneExp) := by
          rw [Nat.pow_add, Nat.mul_assoc]
      _ ≤ 4 * 2 ^ oneExp * 10 ^ n := Nat.mul_le_mul_left _ hpow

theorem digits_search_lt (tie : Tie) {x : Binary64} (hx : x.mant ≠ 0) :
    (search tie x.interval 17 x.decimalExponent).digits < 10 ^ 38 := by
  refine Nat.lt_of_not_le fun hdigits => not_atMost_decimalExponent hx ?_
  have hatMost := atMost_search tie (value_le_high x) 17 x.decimalExponent
  have hexp := le_exp_search tie x.interval 17 x.decimalExponent
  have hone : Decimal.AtMost ⟨1 * 10 ^ 38, (search tie x.interval 17 x.decimalExponent).exp⟩
      x.interval.high := hatMost.of_le hdigits
  exact ((Decimal.atMost_mul_ten_pow 38).1 hone).of_exp_le (by omega)

/-- The digits of a shortest decimal make an integer that 128 bits hold. -/
theorem digits_shortest_lt (tie : Tie) (x : Binary64) : (x.shortest tie).digits < 10 ^ 38 := by
  rw [shortest]
  split
  · exact Nat.pow_pos (by decide)
  · next hx => exact Nat.lt_of_le_of_lt (Decimal.digits_trim_le 17) (digits_search_lt tie hx)

end Binary64
end RowQuery
