import RowQuery.Proofs.Filter.Judgement
import RowQuery.Proofs.Number.Order
import RowQuery.Proofs.Number.Whole
/-!
Divisibility of integers, in memory.

Two integers of 64 signed bits are divided as they are. A larger one is divided as a float, and so
is the divisor: of each the decimal is taken that its float is shortest written with. That decimal
is whole, so the division is one of integers still, but of others where 53 bits do not hold the
integer.
-/

namespace RowQuery.MultipleOf

/-- The integer that the shortest decimal of a whole float stands for. -/
def integer (x : Binary64) : Int :=
  let whole : Int := (x.shortest DecimalStyle.plain.tie).whole
  if x.negative then -whole else whole

/-- The integer that an integer is taken for as a float: that of the float nearest to it. -/
def throughFloat (i : Int) : Int := ((Binary64.ofInt? i).map integer).getD 0

theorem int128?_of_natAbs_lt {i : Int} (h : i.natAbs < 2 ^ 127) : int128? i = some i := by
  rw [int128?, if_pos]
  simp only [fitsInt128, Bool.and_eq_true, decide_eq_true_eq]
  omega

variable {i j : Int} {x y : Binary64}

theorem throughFloat_eq (hx : Binary64.ofInt? i = some x) : throughFloat i = integer x := by
  rw [throughFloat, hx, Option.map_some, Option.getD_some]

theorem natAbs_integer (x : Binary64) :
    (integer x).natAbs = (x.shortest DecimalStyle.plain.tie).whole := by
  simp only [integer]
  split <;> omega

/-- A float near an integer is whole and at most twice as large. -/
theorem exists_whole_of_ofInt? (hx : Binary64.ofInt? i = some x) :
    ∃ m, x.magnitude = m * Binary64.unitsPerOne ∧ m ≤ 2 * i.natAbs ∧
      (i.natAbs < 2 ^ 53 → m = i.natAbs) := by
  obtain ⟨m, hm, hexact⟩ := Binary64.exists_whole_of_ofRatio? hx
  have hle := Binary64.magnitude_ofRatio?_le hx
  refine ⟨m, hm, Nat.le_of_mul_le_mul_right ?_ Binary64.unitsPerOne_pos, hexact⟩
  rw [Nat.mul_assoc, ← hm]
  omega

theorem natAbs_throughFloat_lt (hx : Binary64.ofInt? i = some x) (hi : i.natAbs < 2 ^ 64) :
    (throughFloat i).natAbs < 2 ^ 127 := by
  obtain ⟨m, hm, hle, -⟩ := exists_whole_of_ofInt? hx
  have hwhole := Binary64.whole_shortest_le DecimalStyle.plain.tie hm
  rw [throughFloat_eq hx, natAbs_integer]
  omega

/-- A float near an integer has no decimal places. -/
theorem decimalParts?_of_ofInt? (hx : Binary64.ofInt? i = some x) (hi : i.natAbs < 2 ^ 64) :
    decimalParts? x = some (throughFloat i, 0) := by
  obtain ⟨m, hm, -, -⟩ := exists_whole_of_ofInt? hx
  have hexp := Binary64.exp_shortest_nonneg DecimalStyle.plain.tie hm
  have hplaces : (-(x.shortest DecimalStyle.plain.tie).exp).toNat = 0 := by omega
  have hint := int128?_of_natAbs_lt (natAbs_throughFloat_lt hx hi)
  rw [throughFloat_eq hx] at hint ⊢
  rw [decimalParts?, hplaces]
  exact congrArg (Option.map fun i => (i, 0)) hint

/-- An integer that is not zero is not taken for zero. -/
theorem throughFloat_ne_zero (hx : Binary64.ofInt? i = some x) (hi : i ≠ 0) :
    throughFloat i ≠ 0 := by
  obtain ⟨m, hm, -, -⟩ := exists_whole_of_ofInt? hx
  have hmant := Binary64.mant_ne_zero_of_ofInt? hx hi
  have hwhole := Binary64.whole_shortest_ne_zero DecimalStyle.plain.tie hm hmant
  have habs := natAbs_integer x
  rw [throughFloat_eq hx]
  omega

/-- Where 53 bits hold an integer it is taken for itself. -/
theorem throughFloat_of_lt (hi : i.natAbs < 2 ^ 53) : throughFloat i = i := by
  obtain ⟨x, hx⟩ := Option.isSome_iff_exists.1
    (Binary64.isSome_ofInt? (i := i) (Nat.lt_trans hi (by decide)))
  obtain ⟨m, hm, -, hexact⟩ := exists_whole_of_ofInt? hx
  have hwhole := Binary64.whole_shortest_eq DecimalStyle.plain.tie hm (hexact hi ▸ hi)
  rw [throughFloat_eq hx, integer, hwhole, hexact hi, Binary64.negative_of_ofInt? hx]
  simp only [decide_eq_true_eq]
  split <;> omega

theorem scaled?_zero (h : i.natAbs < 2 ^ 127) : scaled? i 0 = some i := by
  have hone : int128? ((10 ^ 0 : Nat) : Int) = some 1 := rfl
  rw [scaled?, hone, Option.bind_eq_bind, Option.bind_some, Int.mul_one, int128?_of_natAbs_lt h]

/-- The steps of a division of decimals. They are rewritten one by one with this, as the kernel
would evaluate the decimals to see that a bind of them is one. -/
theorem decimalMultiple?_eq (x y : Binary64) : decimalMultiple? x y
    = (decimalParts? x).bind fun p => (decimalParts? y).bind fun q =>
        (scaled? p.1 (max p.2 q.2 - p.2)).bind fun a =>
          (scaled? q.1 (max p.2 q.2 - q.2)).bind fun b => some (b != 0 && a.tmod b == 0) := rfl

/-- Decimals without places are divided as integers. -/
theorem decimalMultiple?_of_parts {a b : Int} (hx : decimalParts? x = some (a, 0))
    (hy : decimalParts? y = some (b, 0)) (ha : a.natAbs < 2 ^ 127) (hb : b.natAbs < 2 ^ 127)
    (hzero : b ≠ 0) : decimalMultiple? x y = some (decide (b ∣ a)) := by
  have htest : (b != 0 && a.tmod b == 0) = decide (b ∣ a) := by
    rw [bne_iff_ne.2 hzero, Bool.true_and, decide_eq_decide.2 Int.dvd_iff_tmod_eq_zero]
    rfl
  rw [decimalMultiple?_eq, hx, hy, Option.bind_some, Option.bind_some, Nat.max_self, Nat.sub_self,
    scaled?_zero ha, Option.bind_some, scaled?_zero hb, Option.bind_some, htest]

/-- Two integers are divided as floats by dividing what they are taken for. -/
theorem decimalMultiple?_of_ofInt? (hx : Binary64.ofInt? i = some x) (hi : i.natAbs < 2 ^ 64)
    (hy : Binary64.ofInt? j = some y) (hj : j.natAbs < 2 ^ 64) (hzero : j ≠ 0) :
    decimalMultiple? x y = some (decide (throughFloat j ∣ throughFloat i)) :=
  decimalMultiple?_of_parts (decimalParts?_of_ofInt? hx hi) (decimalParts?_of_ofInt? hy hj)
    (natAbs_throughFloat_lt hx hi) (natAbs_throughFloat_lt hy hj) (throughFloat_ne_zero hy hzero)

/-! ### Verdicts -/

variable {actual : Json.Value} {v : Filter.Value}

theorem judge_eq (hy : v.binary64? = some y) (config : Json.Value) :
    handler.judge actual v config = .holds (!y.isZero && divides v y actual) := by
  simp only [handler, hy]

theorem divides_of_int64? {n d : Int} (hn : actual.int64? = some n) :
    divides (.int d) y actual = (n.tmod d == 0) := by
  simp only [divides, hn]

theorem divides_of_binary64? (hn : actual.int64? = none) (hx : actual.binary64? = some x) :
    divides v y actual = (decimalMultiple? x y).getD (x.remainderNegligible y) := by
  simp only [divides, hn, hx]

/-- How an integer of 64 bits, signed or not, is judged against a divisor. One of 64 signed bits is
a multiple just where the divisor divides it. Beyond those the two are divided as what they are
taken for, which may not be what they are; the divisor is taken for itself where 53 bits hold it. -/
theorem judge_integers {n d : Int} (hn : Json.minInt64 ≤ n) (hn' : n ≤ Json.maxUInt64)
    (hd : Json.fitsInt64 d = true) (hzero : d ≠ 0) (config : Json.Value) :
    (n ≤ Json.maxInt64 → handler.judge (.int n) (.int d) config = .holds (decide (d ∣ n))) ∧
      (Json.maxInt64 < n → handler.judge (.int n) (.int d) config
        = .holds (decide (throughFloat d ∣ throughFloat n))) ∧
      (d.natAbs < 2 ^ 53 → throughFloat d = d) := by
  have hmin : Json.minInt64 = -(2 ^ 63) := rfl
  have hmax : (Json.maxUInt64 : Int) = 2 ^ 64 - 1 := rfl
  have hnabs : n.natAbs < 2 ^ 64 := by omega
  have hdabs := natAbs_lt_of_fitsInt64 hd
  obtain ⟨x, hx⟩ := Option.isSome_iff_exists.1 (Binary64.isSome_ofInt? hnabs)
  obtain ⟨y, hy⟩ := Option.isSome_iff_exists.1 (Binary64.isSome_ofInt? hdabs)
  have hnonzero : y.isZero = false :=
    beq_eq_false_iff_ne.2 (Binary64.mant_ne_zero_of_ofInt? hy hzero)
  have hdivisor : (Filter.Value.int d).binary64? = some y := hy
  have hstored : (Json.Value.int n).binary64? = some x := hx
  refine ⟨fun hfits => ?_, fun hlarge => ?_, throughFloat_of_lt⟩
  · have hint : (Json.Value.int n).int64? = some n := if_pos (by
      simp only [Json.fitsInt64, Bool.and_eq_true, decide_eq_true_eq]
      exact ⟨hn, hfits⟩)
    rw [judge_eq hdivisor, hnonzero, divides_of_int64? hint, Bool.not_false, Bool.true_and,
      decide_eq_decide.2 Int.dvd_iff_tmod_eq_zero]
    rfl
  · have hint : (Json.Value.int n).int64? = none := if_neg (by
      simp only [Json.fitsInt64, Bool.and_eq_true, decide_eq_true_eq]
      omega)
    rw [judge_eq hdivisor, hnonzero, divides_of_binary64? hint hstored,
      decimalMultiple?_of_ofInt? hx hnabs hy hdabs hzero, Option.getD_some, Bool.not_false,
      Bool.true_and]

/-- The smallest integer of 64 signed bits by minus one, and the largest of 64 unsigned bits, which
is a multiple of three but taken for none. -/
theorem judge_integers_ends :
    handler.judge (.int Json.minInt64) (.int (-1)) .null = .holds true ∧
      throughFloat 3 = 3 ∧ throughFloat Json.maxUInt64 = 18446744073709552000 ∧
      handler.judge (.int Json.maxUInt64) (.int 3) .null = .holds false := by
  have hmin := (judge_integers (n := Json.minInt64) (d := -1) (by decide) (by decide) (by decide)
    (by decide) .null).1 (by decide)
  obtain ⟨-, hlarge, hthree⟩ := judge_integers (n := Json.maxUInt64) (d := 3) (by decide)
    (by decide) (by decide) (by decide) .null
  have hmax : throughFloat Json.maxUInt64 = 18446744073709552000 := by decide +kernel
  refine ⟨hmin, hthree (by decide), hmax, ?_⟩
  rw [hlarge (by decide), hthree (by decide), hmax]
  rfl

/-- An odd integer just beyond 64 signed bits is judged a multiple of two. -/
theorem judge_odd : ¬ (2 : Int) ∣ 2 ^ 63 + 1 ∧
    handler.judge (.int (2 ^ 63 + 1)) (.int 2) .null = .holds true := by
  decide +kernel

end RowQuery.MultipleOf
