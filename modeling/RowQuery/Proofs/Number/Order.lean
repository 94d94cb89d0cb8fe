import RowQuery.Proofs.Number.Rounding
/-!
Rounding keeps the order.

A larger quotient is never rounded to a smaller number. Of two quotients with one length this is
seen at the significands; a longer one is not rounded below the power of two that a shorter one does
not surpass. So integers that are compared as floats stand in their own order, or are not told
apart.
-/

namespace RowQuery.Binary64

theorem roundDiv_mono {num num' : Nat} (den : Nat) (h : num ≤ num') :
    roundDiv num den ≤ roundDiv num' den := by
  rcases Nat.lt_or_ge (num / den) (num' / den) with hlt | hge
  · obtain ⟨-, hup⟩ := roundDiv_bounds num den
    obtain ⟨hdown, -⟩ := roundDiv_bounds num' den
    omega
  · have hq : num / den = num' / den := Nat.le_antisymm (Nat.div_le_div_right h) hge
    have hdiv := Nat.div_add_mod num den
    have hdiv' := Nat.div_add_mod num' den
    simp only [roundDiv]
    rw [hq] at hdiv ⊢
    split <;> split <;> omega

theorem magnitude_mono {negative negative' : Bool} {num num' den : Nat} {x y : Binary64}
    (hx : ofUnits? negative num den = some x) (hy : ofUnits? negative' num' den = some y)
    (h : num ≤ num') : x.magnitude ≤ y.magnitude := by
  have hlog : (num / den).log2 ≤ (num' / den).log2 :=
    Nat.le_of_lt_succ (log2_lt_of_lt (Nat.succ_pos _)
      (Nat.lt_of_le_of_lt (Nat.div_le_div_right h) Nat.lt_log2_self))
  rw [magnitude_of_ofUnits? hx, magnitude_of_ofUnits? hy]
  obtain ⟨hlt, -⟩ := quotient_bounds (num / den)
  obtain ⟨-, hge⟩ := quotient_bounds (num' / den)
  generalize hexp : (num / den).log2 - 52 = exp at hlt ⊢
  generalize hexp' : (num' / den).log2 - 52 = exp' at hge ⊢
  rw [Nat.div_div_eq_div_mul] at hlt hge
  rcases Nat.lt_or_ge exp exp' with hlonger | hsame
  · have hup := (roundDiv_bounds num (den * 2 ^ exp)).2
    have hdown := (roundDiv_bounds num' (den * 2 ^ exp')).1
    calc roundDiv num (den * 2 ^ exp) * 2 ^ exp ≤ 2 ^ 53 * 2 ^ exp :=
          Nat.mul_le_mul_right _ (by omega)
      _ = 2 ^ (53 + exp) := (Nat.pow_add ..).symm
      _ ≤ 2 ^ (52 + exp') := Nat.pow_le_pow_right (by decide) (by omega)
      _ = 2 ^ 52 * 2 ^ exp' := Nat.pow_add ..
      _ ≤ roundDiv num' (den * 2 ^ exp') * 2 ^ exp' := Nat.mul_le_mul_right _ (by omega)
  · obtain rfl : exp = exp' := by omega
    exact Nat.mul_le_mul_right _ (roundDiv_mono _ h)

theorem negative_of_ofUnits? {negative : Bool} {num den : Nat} {y : Binary64}
    (h : ofUnits? negative num den = some y) : y.negative = negative := by
  have hparts : ∀ {mant exp : Nat}, ofParts? negative mant exp = some y →
      y.negative = negative := by
    intro mant exp h
    unfold ofParts? at h
    split at h
    · cases h
      rfl
    · cases h
  simp only [ofUnits?] at h
  split at h <;> exact hparts h

theorem negative_of_ofInt? {i : Int} {x : Binary64} (h : ofInt? i = some x) :
    x.negative = decide (i < 0) := by
  rw [ofInt?, ofRatio?] at h
  exact negative_of_ofUnits? h

theorem units_ofInt? {i : Int} {x : Binary64} (h : ofInt? i = some x) :
    x.units = if i < 0 then -(x.magnitude : Int) else x.magnitude := by
  rw [units, negative_of_ofInt? h]
  simp only [decide_eq_true_eq]

theorem magnitude_ofInt?_mono {i j : Int} {x y : Binary64} (hx : ofInt? i = some x)
    (hy : ofInt? j = some y) (h : i.natAbs ≤ j.natAbs) : x.magnitude ≤ y.magnitude := by
  rw [ofInt?, ofRatio?] at hx hy
  generalize unitsPerOne = unit at hx hy
  exact magnitude_mono hx hy (Nat.mul_le_mul_right unit h)

/-- An integer is not rounded to a smaller float than an integer below it. -/
theorem units_ofInt?_mono {i j : Int} {x y : Binary64} (hx : ofInt? i = some x)
    (hy : ofInt? j = some y) (h : i ≤ j) : x.units ≤ y.units := by
  rw [units_ofInt? hx, units_ofInt? hy]
  by_cases hi : i < 0 <;> by_cases hj : j < 0
  · have hle := magnitude_ofInt?_mono hy hx (by omega)
    rw [if_pos hi, if_pos hj]
    omega
  · rw [if_pos hi, if_neg hj]
    omega
  · omega
  · have hle := magnitude_ofInt?_mono hx hy (by omega)
    rw [if_neg hi, if_neg hj]
    omega

end RowQuery.Binary64
