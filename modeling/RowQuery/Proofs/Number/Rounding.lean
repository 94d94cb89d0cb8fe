import Mathlib.Tactic.Common
import Mathlib.Tactic.Ring
import RowQuery.Json.Value
/-!
Rounding stays finite.

The number nearest to a quotient of units exists as long as the quotient is less than half a unit of
the last place beyond the largest number. So every integer of 64 bits is near a finite number, and
so is every power of ten up to the exponent 308. A quotient that 53 bits or more are there for grows
by one part in `2 ^ 53` at most.
-/

namespace RowQuery.Binary64

theorem isSome_ofParts?_iff {negative : Bool} {mant exp : Nat} :
    (ofParts? negative mant exp).isSome ↔ Normal mant exp := by
  unfold ofParts?
  split <;> simp_all

theorem ofParts?_eq (x : Binary64) : ofParts? x.negative x.mant x.exp = some x :=
  dif_pos x.normal

/-- Rounding goes to one of the two neighbours. -/
theorem roundDiv_bounds (num den : Nat) :
    num / den ≤ roundDiv num den ∧ roundDiv num den ≤ num / den + 1 := by
  simp only [roundDiv]
  split <;> omega

/-- Rounding errs by half a divisor at most. -/
theorem roundDiv_mul_le (num den : Nat) : 2 * (roundDiv num den * den) ≤ 2 * num + den := by
  have hdiv : num / den * den + num % den = num := Nat.div_add_mod' num den
  simp only [roundDiv]
  split
  · rw [Nat.add_mul, Nat.one_mul]
    omega
  · omega

/-- Divided by the power of two that its length asks for, a number has 53 bits at most, and exactly
53 as soon as the power is not one. -/
theorem quotient_bounds (q : Nat) :
    q / 2 ^ (q.log2 - 52) < 2 ^ 53 ∧ (q.log2 - 52 = 0 ∨ 2 ^ 52 ≤ q / 2 ^ (q.log2 - 52)) := by
  have hpos : 0 < 2 ^ (q.log2 - 52) := Nat.two_pow_pos _
  have hlt : q < 2 ^ (q.log2 + 1) := Nat.lt_log2_self
  refine ⟨?_, ?_⟩
  · rw [Nat.div_lt_iff_lt_mul hpos, ← Nat.pow_add]
    exact Nat.lt_of_lt_of_le hlt (Nat.pow_le_pow_right (by decide) (by omega))
  · rcases Nat.lt_or_ge 52 q.log2 with h | h
    · right
      have hle : 2 ^ q.log2 ≤ q := Nat.log2_self_le (by rintro rfl; simp at h)
      rw [Nat.le_div_iff_mul_le hpos, ← Nat.pow_add]
      rwa [show 52 + (q.log2 - 52) = q.log2 by omega]
    · left; omega

theorem log2_lt_of_lt {q n : Nat} (hn : 0 < n) (h : q < 2 ^ n) : q.log2 < n := by
  rcases Nat.eq_zero_or_pos q with rfl | hq
  · simpa using hn
  · exact (Nat.log2_lt (by omega)).2 h

/-- The largest exponent. -/
def maxExp : Nat := 2045

/-- Twice the magnitude from which on rounding finds no number: that lies half a unit of the last
place beyond the largest one. -/
def overflow : Nat := (2 ^ 54 - 1) * 2 ^ maxExp

theorem overflow_lt : overflow < 2 * 2 ^ (53 + maxExp) := by
  have hpos : 0 < 2 ^ maxExp := Nat.two_pow_pos _
  rw [overflow, Nat.pow_add]
  omega

theorem isSome_ofUnits? (negative : Bool) {num den : Nat} (h : 2 * num < overflow * den) :
    (ofUnits? negative num den).isSome := by
  have hden : 0 < den := Nat.pos_of_ne_zero (by rintro rfl; simp at h)
  have hlog : (num / den).log2 < 53 + maxExp := by
    refine log2_lt_of_lt (Nat.lt_of_lt_of_le (by decide) (Nat.le_add_right 53 _)) ?_
    refine (Nat.div_lt_iff_lt_mul hden).2 (Nat.lt_of_mul_lt_mul_left (a := 2) ?_)
    rw [← Nat.mul_assoc]
    exact Nat.lt_trans h (Nat.mul_lt_mul_of_pos_right overflow_lt hden)
  obtain ⟨hlt, hge⟩ := quotient_bounds (num / den)
  simp only [ofUnits?]
  generalize hexp : (num / den).log2 - 52 = exp at hlt hge ⊢
  rw [Nat.div_div_eq_div_mul] at hlt hge
  obtain ⟨hle, hle'⟩ := roundDiv_bounds num (den * 2 ^ exp)
  have hmax : maxExp = 2045 := rfl
  split
  · next hfull =>
    rw [isSome_ofParts?_iff]
    -- at the largest exponent the significand stays below its limit
    have hne : exp ≠ maxExp := by
      rintro rfl
      have hround := roundDiv_mul_le num (den * 2 ^ maxExp)
      rw [hfull] at hround
      have hlimit : 2 * (2 ^ 53 * (den * 2 ^ maxExp)) = overflow * den + den * 2 ^ maxExp := by
        rw [overflow]
        generalize 2 ^ maxExp = u
        ring
      rw [hlimit] at hround
      omega
    exact ⟨by decide, .inr (by decide), by omega⟩
  · rw [isSome_ofParts?_iff]
    exact ⟨by omega, by omega, by omega⟩

/-- The magnitude of a rounded quotient: a whole number of the units that its length leaves. -/
theorem magnitude_of_ofUnits? {negative : Bool} {num den : Nat} {y : Binary64}
    (h : ofUnits? negative num den = some y) :
    y.magnitude
      = roundDiv num (den * 2 ^ ((num / den).log2 - 52)) * 2 ^ ((num / den).log2 - 52) := by
  simp only [ofUnits?] at h
  generalize (num / den).log2 - 52 = exp at h ⊢
  have hparts : ∀ {mant exp : Nat}, ofParts? negative mant exp = some y →
      y.magnitude = mant * 2 ^ exp := by
    intro mant exp h
    unfold ofParts? at h
    split at h
    · cases h
      rfl
    · cases h
  split at h
  · next hfull =>
    rw [hparts h, hfull, Nat.pow_succ']
    omega
  · exact hparts h

/-- Rounding adds one part in `2 ^ 53` at most, if 53 bits are there to be rounded to. -/
theorem magnitude_mul_le {negative : Bool} {num den : Nat} {y : Binary64}
    (h : ofUnits? negative num den = some y) (hnum : 2 ^ 52 * den ≤ num) :
    2 ^ 53 * (y.magnitude * den) ≤ (2 ^ 53 + 1) * num := by
  rw [magnitude_of_ofUnits? h]
  obtain ⟨-, hge⟩ := quotient_bounds (num / den)
  generalize (num / den).log2 - 52 = exp at hge ⊢
  have hunit : 2 ^ 52 * (den * 2 ^ exp) ≤ num := by
    rcases hge with rfl | hge
    · simpa using hnum
    · rw [Nat.div_div_eq_div_mul] at hge
      exact Nat.mul_le_of_le_div _ _ _ hge
  have hround := roundDiv_mul_le num (den * 2 ^ exp)
  rw [show roundDiv num (den * 2 ^ exp) * 2 ^ exp * den
    = roundDiv num (den * 2 ^ exp) * (den * 2 ^ exp) by ring]
  omega

/-- A quotient is not rounded below a power of two that it reaches. -/
theorem two_pow_le_magnitude {negative : Bool} {num den k : Nat} {y : Binary64}
    (h : ofUnits? negative num den = some y) (hden : 0 < den) (hk : 2 ^ k * den ≤ num) :
    2 ^ k ≤ y.magnitude := by
  have hq : 2 ^ k ≤ num / den := (Nat.le_div_iff_mul_le hden).2 hk
  have hne : num / den ≠ 0 := Nat.ne_of_gt (Nat.lt_of_lt_of_le (Nat.two_pow_pos k) hq)
  have hlog : k ≤ (num / den).log2 := (Nat.le_log2 hne).2 hq
  have hself : 2 ^ (num / den).log2 ≤ num / den := Nat.log2_self_le hne
  obtain ⟨hround, -⟩ := roundDiv_bounds num (den * 2 ^ ((num / den).log2 - 52))
  rw [← Nat.div_div_eq_div_mul] at hround
  rw [magnitude_of_ofUnits? h]
  calc 2 ^ k ≤ 2 ^ (num / den).log2 := Nat.pow_le_pow_right (by decide) hlog
    _ = 2 ^ ((num / den).log2 - ((num / den).log2 - 52)) * 2 ^ ((num / den).log2 - 52) := by
        rw [← Nat.pow_add, Nat.sub_add_cancel (Nat.sub_le ..)]
    _ ≤ num / den / 2 ^ ((num / den).log2 - 52) * 2 ^ ((num / den).log2 - 52) := by
        refine Nat.mul_le_mul_right _ ((Nat.le_div_iff_mul_le (Nat.two_pow_pos _)).2 ?_)
        rwa [← Nat.pow_add, Nat.sub_add_cancel (Nat.sub_le ..)]
    _ ≤ _ := Nat.mul_le_mul_right _ hround

/-! ### Integers and powers of ten -/

/-- The exponent of one. -/
def oneExp : Nat := 1074

theorem unitsPerOne_eq : unitsPerOne = 2 ^ oneExp := by decide +kernel

theorem unitsPerOne_pos : 0 < unitsPerOne := unitsPerOne_eq ▸ Nat.two_pow_pos _

theorem two_pow_maxExp : 2 ^ maxExp = 2 ^ (maxExp - oneExp) * unitsPerOne := by
  have hexp : maxExp - oneExp + oneExp = maxExp := rfl
  rw [unitsPerOne_eq, ← Nat.pow_add, hexp]

/-- A whole number is rounded to a finite one if it is below the limit. -/
theorem isSome_ofRatio? (negative : Bool) {n : Nat}
    (h : 2 * n < (2 ^ 54 - 1) * 2 ^ (maxExp - oneExp)) : (ofRatio? negative n 1).isSome := by
  refine isSome_ofUnits? _ ?_
  rw [overflow, two_pow_maxExp, Nat.mul_one, ← Nat.mul_assoc, ← Nat.mul_assoc]
  exact Nat.mul_lt_mul_of_pos_right h unitsPerOne_pos

theorem isSome_ofRatio?_of_lt (negative : Bool) {n : Nat} (h : n < 2 ^ 64) :
    (ofRatio? negative n 1).isSome := by
  refine isSome_ofRatio? _ ?_
  have hpow : 2 ^ 12 ≤ 2 ^ (maxExp - oneExp) := Nat.pow_le_pow_right (by decide) (by decide)
  omega

/-- Every integer of 64 bits, signed or not, is near a finite number. -/
theorem isSome_ofInt? {i : Int} (h : i.natAbs < 2 ^ 64) : (ofInt? i).isSome :=
  isSome_ofRatio?_of_lt _ h

/-- A whole number grows by one part in `2 ^ 53` at most; zero stays zero. -/
theorem magnitude_ofRatio?_le {negative : Bool} {n : Nat} {x : Binary64}
    (h : ofRatio? negative n 1 = some x) :
    2 ^ 53 * x.magnitude ≤ (2 ^ 53 + 1) * (n * unitsPerOne) := by
  rw [ofRatio?] at h
  rcases Nat.eq_zero_or_pos n with rfl | hn
  · have hround := roundDiv_mul_le 0 (1 * 2 ^ ((0 : Nat).log2 - 52))
    have hlog : (0 : Nat).log2 - 52 = 0 := by simp
    rw [Nat.zero_mul] at h
    rw [magnitude_of_ofUnits? h, Nat.zero_div]
    rw [hlog] at hround ⊢
    omega
  · have hone : unitsPerOne ≤ n * unitsPerOne := Nat.le_mul_of_pos_left _ hn
    have hbits : 2 ^ 52 ≤ unitsPerOne := by
      rw [unitsPerOne_eq]
      exact Nat.pow_le_pow_right (by decide) (by decide)
    have hle := magnitude_mul_le h (by omega)
    rwa [Nat.mul_one] at hle

theorem powerOfTen?_eq {n : Nat} (hn : n < 310) : powerOfTen? n = ofRatio? false (10 ^ n) 1 := by
  have hlength : (Nat.toDigits 10 1).length = 1 := rfl
  have hneg : (-(n : Int)).toNat = 0 := by omega
  simp only [powerOfTen?, ofDecimal?, hlength]
  rw [if_neg (by omega), if_neg (by omega), hneg, Int.toNat_natCast, Nat.one_mul, Nat.pow_zero]

/-- The exponent of the largest power of ten that is rounded to a float. -/
def maxTen : Nat := 308

theorem ten_pow_maxTen : 2 * 10 ^ maxTen < (2 ^ 54 - 1) * 2 ^ (maxExp - oneExp) := by
  decide +kernel

theorem lt_ten_pow_succ_maxTen : 2 ^ 53 * 2 ^ (maxExp - oneExp) < 10 ^ (maxTen + 1) := by
  decide +kernel

/-- The powers of ten that floats reach are rounded to floats that are one at least. -/
theorem exists_powerOfTen? {n : Nat} (hn : n ≤ maxTen) :
    ∃ p, powerOfTen? n = some p ∧ unitsPerOne ≤ p.magnitude ∧
      2 ^ 53 * p.magnitude ≤ (2 ^ 53 + 1) * (10 ^ n * unitsPerOne) := by
  have hpow : 10 ^ n ≤ 10 ^ maxTen := Nat.pow_le_pow_right (by decide) hn
  obtain ⟨p, hp⟩ := Option.isSome_iff_exists.1
    (isSome_ofRatio? false (Nat.lt_of_le_of_lt (Nat.mul_le_mul_left 2 hpow) ten_pow_maxTen))
  have hn' : n < 310 := Nat.lt_of_le_of_lt hn (by decide)
  refine ⟨p, (powerOfTen?_eq hn').trans hp, ?_, magnitude_ofRatio?_le hp⟩
  rw [unitsPerOne_eq]
  refine two_pow_le_magnitude hp Nat.one_pos ?_
  calc 2 ^ oneExp * 1 = unitsPerOne := by rw [Nat.mul_one, unitsPerOne_eq]
    _ ≤ 10 ^ n * unitsPerOne := Nat.le_mul_of_pos_left _ (Nat.pow_pos (by decide))

/-! ### Products and quotients -/

theorem two_mul_magnitude_lt (x : Binary64) : 2 * x.magnitude < overflow := by
  obtain ⟨hmant, -, hexp⟩ := x.normal
  have hpos : 0 < 2 ^ maxExp := Nat.two_pow_pos _
  have hle : x.magnitude ≤ (2 ^ 53 - 1) * 2 ^ maxExp :=
    Nat.mul_le_mul (Nat.le_sub_one_of_lt hmant) (Nat.pow_le_pow_right (by decide) hexp)
  rw [overflow]
  omega

/-- A quotient by what is one at least is no larger than the number divided. -/
theorem isSome_div? (x : Binary64) {y : Binary64} (hy : unitsPerOne ≤ y.magnitude) :
    (x.div? y).isSome := by
  refine isSome_ofUnits? _ ?_
  calc 2 * (x.magnitude * unitsPerOne) = 2 * x.magnitude * unitsPerOne := by ring
    _ < overflow * unitsPerOne :=
        Nat.mul_lt_mul_of_pos_right (two_mul_magnitude_lt x) unitsPerOne_pos
    _ ≤ overflow * y.magnitude := Nat.mul_le_mul_left _ hy

/-- What three roundings cannot bring to the limit, in quarters of a unit: the upper end of the
numbers that the third largest one stands for. -/
def secure : Nat := (2 ^ 55 - 10) * 2 ^ maxExp

/-- A power of ten that is secure is rounded to a float. -/
theorem le_maxTen_of_secure {n : Nat} (h : 10 ^ n * (4 * unitsPerOne) ≤ secure) : n ≤ maxTen := by
  refine Nat.not_lt.1 fun hn => ?_
  have hpow : 10 ^ (maxTen + 1) ≤ 10 ^ n := Nat.pow_le_pow_right (by decide) hn
  have hsecure : secure < 4 * (2 ^ 53 * 2 ^ (maxExp - oneExp)) * unitsPerOne := by
    have hpos : 0 < 2 ^ (maxExp - oneExp) * unitsPerOne :=
      Nat.mul_pos (Nat.two_pow_pos _) unitsPerOne_pos
    rw [secure, two_pow_maxExp, Nat.mul_assoc, Nat.mul_assoc]
    omega
  refine absurd h (Nat.not_le.2 (Nat.lt_of_lt_of_le hsecure ?_))
  calc 4 * (2 ^ 53 * 2 ^ (maxExp - oneExp)) * unitsPerOne
      = 2 ^ 53 * 2 ^ (maxExp - oneExp) * (4 * unitsPerOne) := by ring
    _ ≤ 10 ^ n * (4 * unitsPerOne) :=
        Nat.mul_le_mul_right _ (Nat.le_trans (Nat.le_of_lt lt_ten_pow_succ_maxTen) hpow)

/-- The product of two rounded whole numbers is finite if that of the numbers is secure. -/
theorem isSome_mul? {x y : Binary64} {n m : Nat}
    (hx : 2 ^ 53 * x.magnitude ≤ (2 ^ 53 + 1) * (n * unitsPerOne))
    (hy : 2 ^ 53 * y.magnitude ≤ (2 ^ 53 + 1) * (m * unitsPerOne))
    (h : n * m * (4 * unitsPerOne) ≤ secure) : (x.mul? y).isSome := by
  refine isSome_ofUnits? _ ?_
  have hpos : 0 < 2 ^ maxExp * unitsPerOne := Nat.mul_pos (Nat.two_pow_pos _) unitsPerOne_pos
  have hround : 4 * (2 ^ 106 * (x.magnitude * y.magnitude))
      ≤ (2 ^ 53 + 1) ^ 2 * (2 ^ 55 - 10) * (2 ^ maxExp * unitsPerOne) := by
    calc 4 * (2 ^ 106 * (x.magnitude * y.magnitude))
        = 4 * (2 ^ 53 * x.magnitude * (2 ^ 53 * y.magnitude)) := by ring
      _ ≤ 4 * ((2 ^ 53 + 1) * (n * unitsPerOne) * ((2 ^ 53 + 1) * (m * unitsPerOne))) :=
          Nat.mul_le_mul_left _ (Nat.mul_le_mul hx hy)
      _ = (2 ^ 53 + 1) ^ 2 * (n * m * (4 * unitsPerOne)) * unitsPerOne := by ring
      _ ≤ (2 ^ 53 + 1) ^ 2 * secure * unitsPerOne :=
          Nat.mul_le_mul_right _ (Nat.mul_le_mul_left _ h)
      _ = _ := by rw [secure]; ring
  rw [overflow, Nat.mul_assoc]
  omega

end RowQuery.Binary64
