import RowQuery.Json.Literal
import RowQuery.Proofs.Number.Shortest
import RowQuery.Proofs.Text.Integer
/-!
Literals that are not too large are read.

A literal is read as a float whatever its digits, as long as the decimal that it stands for is
secure: of the digits that are passed over it is only known that they make it no smaller. A literal
with a negative exponent is secure in any case.
-/

namespace RowQuery.Json.Literal

open Binary64

/-- The decimal that a literal stands for. -/
def decimal (l : Literal) : Decimal :=
  ⟨Nat.ofDigitChars 10 (l.whole ++ l.fraction) 0, l.exponent.getD 0 - l.fraction.length⟩

/-! ### The leading digits -/

/-- All digits are leading ones if 64 bits hold their number. -/
theorem leading_eq_of_le {ds : List Char} {n : Nat} (h : Nat.ofDigitChars 10 ds n ≤ maxUInt64) :
    leading n ds = (Nat.ofDigitChars 10 ds n, []) := by
  induction ds generalizing n with
  | nil => rfl
  | cons d ds ih =>
    have hlonger : Nat.ofDigitChars 10 [d] n ≤ Nat.ofDigitChars 10 (d :: ds) n :=
      le_ofDigitChars ds _
    rw [leading]
    rw [if_pos (Nat.le_trans hlonger h)]
    exact ih h

/-- The leading digits are a beginning of all digits that 64 bits hold. -/
theorem exists_leading (ds : List Char) {n : Nat} (hn : n ≤ maxUInt64) :
    ∃ taken ignored, ds = taken ++ ignored ∧
      leading n ds = (Nat.ofDigitChars 10 taken n, ignored) ∧
      Nat.ofDigitChars 10 taken n ≤ maxUInt64 := by
  induction ds generalizing n with
  | nil => exact ⟨[], [], rfl, rfl, hn⟩
  | cons d ds ih =>
    rw [leading]
    split
    · next hlonger =>
      obtain ⟨taken, ignored, hds, hleading, hle⟩ := ih hlonger
      exact ⟨d :: taken, ignored, congrArg (d :: ·) hds, hleading, hle⟩
    · exact ⟨[], d :: ds, rfl, rfl, hn⟩

/-! ### Scaling -/

/-- A power of ten that is secure in front of a whole number multiplies it to a float. -/
theorem isSome_bind_mul? {negative : Bool} {n k : Nat} {x : Binary64}
    (hx : Binary64.ofRatio? negative n 1 = some x) (hn : 0 < n)
    (h : Decimal.AtMost ⟨n, k⟩ secure) : ((Binary64.powerOfTen? k).bind x.mul?).isSome := by
  have hsecure : n * 10 ^ k * (4 * unitsPerOne) ≤ secure := by
    simp only [Decimal.AtMost, Grid.ofExponent, Int.toNat_natCast, Int.toNat_neg_natCast,
      Nat.pow_zero, Nat.mul_one] at h
    rwa [Nat.mul_assoc, Nat.mul_comm (10 ^ k)]
  have hk : k ≤ maxTen := by
    refine le_maxTen_of_secure (Nat.le_trans (Nat.mul_le_mul_right _ ?_) hsecure)
    exact Nat.le_mul_of_pos_left _ hn
  obtain ⟨p, hp, -, hpmag⟩ := exists_powerOfTen? hk
  rw [hp, Option.bind_some]
  exact isSome_mul? (magnitude_ofRatio?_le hx) hpmag hsecure

theorem exists_bind_div? (x : Binary64) {k : Nat} (hk : k ≤ maxTen) :
    ∃ y, (Binary64.powerOfTen? k).bind x.div? = some y := by
  obtain ⟨p, hp, hone, -⟩ := exists_powerOfTen? hk
  rw [hp, Option.bind_some]
  exact Option.isSome_iff_exists.1 (isSome_div? x hone)

theorem pos_of_isZero_eq_false {negative : Bool} {n : Nat} {x : Binary64}
    (hx : Binary64.ofRatio? negative n 1 = some x) (hzero : x.isZero = false) : 0 < n := by
  refine Nat.pos_of_ne_zero fun hn => ?_
  have hmag := magnitude_ofRatio?_le hx
  rw [hn, Nat.zero_mul, Nat.mul_zero] at hmag
  have hmant : x.mant ≠ 0 := by simpa [isZero] using hzero
  exact magnitude_ne_zero hmant (by omega)

/-- A whole number is scaled to a float if the decimal is secure; what is below one need not be. -/
theorem isSome_scaled? {negative : Bool} {n : Nat} {x : Binary64} {exp : Int}
    (hx : Binary64.ofRatio? negative n 1 = some x)
    (h : 0 ≤ exp → Decimal.AtMost ⟨n, exp⟩ secure) : (scaled? x exp).isSome := by
  have hten : maxTen = 308 := rfl
  rw [scaled?]
  split
  · rfl
  · next hzero =>
    have hn := pos_of_isZero_eq_false hx (Bool.not_eq_true _ ▸ hzero)
    split
    · next hexp =>
      obtain ⟨k, rfl⟩ := Int.eq_ofNat_of_zero_le hexp
      exact isSome_bind_mul? hx hn (h hexp)
    split
    · exact Option.isSome_iff_exists.2 (exists_bind_div? x (by omega))
    split
    · obtain ⟨p, hp, hone, -⟩ := exists_powerOfTen? (Nat.le_refl maxTen)
      obtain ⟨y, hy⟩ := Option.isSome_iff_exists.1 (isSome_div? x hone)
      rw [← hten, hp, Option.bind_eq_bind, Option.bind_some, hy, Option.bind_some]
      exact Option.isSome_iff_exists.2 (exists_bind_div? y (by omega))
    · rfl

/-- A literal that begins with no more than 64 bits hold before its point is a float if its decimal
is secure. -/
theorem isSome_float? {l : Literal} (negative : Bool)
    (hwhole : Nat.ofDigitChars 10 l.whole 0 ≤ maxUInt64) (h : l.decimal.AtMost secure) :
    (l.float? negative).isSome := by
  obtain ⟨taken, ignored, hfraction, hleading, hle⟩ := exists_leading l.fraction hwhole
  obtain ⟨x, hx⟩ := Option.isSome_iff_exists.1
    (isSome_ofRatio?_of_lt negative (Nat.lt_of_le_of_lt hle (by decide)))
  simp only [float?, leading_eq_of_le hwhole, hleading]
  rw [hx, Option.bind_eq_bind, Option.bind_some]
  refine isSome_scaled? hx fun _ => ?_
  -- the digits that are passed over make the decimal no smaller
  have hdigits : Nat.ofDigitChars 10 taken (Nat.ofDigitChars 10 l.whole 0) * 10 ^ ignored.length
      ≤ l.decimal.digits := by
    rw [decimal, hfraction, ← List.append_assoc, Nat.ofDigitChars_append, Nat.ofDigitChars_append]
    exact shift_le_ofDigitChars ..
  have hatMost := (Decimal.atMost_mul_ten_pow ignored.length).1 (h.of_le hdigits)
  have hexp : l.exponent.getD 0 + ([] : List Char).length
      - (l.fraction.length - ignored.length : Int)
      = l.exponent.getD 0 - l.fraction.length + ignored.length := by
    rw [List.length_nil]
    omega
  rwa [hexp]

end RowQuery.Json.Literal
