import Mathlib.Tactic.FieldSimp
import RowQuery.Proofs.Handler.MultipleOf
import RowQuery.Proofs.Json.FloatText
import RowQuery.Proofs.Text.Integer
/-!
Divisibility of decimals.

The text of a number is read as an integer and a count of decimal places, which is what its shortest
decimal says. Two of these are brought to one scale, the larger one, and the integers divided there.
As long as nothing overflows on the way that decides divisibility of the rationals.
-/

namespace RowQuery.MultipleOf

/-! ### Decimal texts -/

/-- Reads a decimal text: its digits without the point as one integer of 128 bits, and how many of
them stand behind the point. -/
def readParts (text : List Char) : Option (Int × Nat) :=
  let whole := text.takeWhile (· != '.')
  let fraction := (text.dropWhile (· != '.')).drop 1
  (Integer.readInt (2 ^ 127 - 1) (whole ++ fraction)).toOption.map fun i => (i, fraction.length)

theorem fitsInt128_iff {i : Int} : fitsInt128 i = true ↔ -(2 ^ 127) ≤ i ∧ i < 2 ^ 127 := by
  rw [fitsInt128, Bool.and_eq_true, decide_eq_true_eq, decide_eq_true_eq]

theorem toOption_readInt {text : List Char} {i : Int} (h : ∀ j, Integer.Denotes text j ↔ j = i) :
    (Integer.readInt (2 ^ 127 - 1) text).toOption = int128? i := by
  rw [int128?]
  cases hread : Integer.readInt (2 ^ 127 - 1) text with
  | ok j =>
    obtain ⟨hdenotes, hlower, hupper⟩ := Integer.readInt_eq_ok.1 hread
    obtain rfl := (h j).1 hdenotes
    rw [if_pos (fitsInt128_iff.2 (by omega))]
    rfl
  | error e =>
    rw [if_neg]
    · rfl
    · intro hfits
      have hbounds := fitsInt128_iff.1 hfits
      rw [Integer.readInt_eq_ok.2 ⟨(h i).2 rfl, by omega, by omega⟩] at hread
      cases hread

theorem readParts_append {front fraction : List Char} (hfront : ∀ c ∈ front, c ≠ '.') :
    readParts (front ++ if fraction = [] then [] else '.' :: fraction)
      = (Integer.readInt (2 ^ 127 - 1) (front ++ fraction)).toOption.map
          fun i => (i, fraction.length) := by
  have hne : ∀ c ∈ front, (c != '.') = true := fun c hc => bne_iff_ne.2 (hfront c hc)
  rw [readParts, List.takeWhile_append_of_pos hne, List.dropWhile_append_of_pos hne]
  cases fraction with
  | nil => simp
  | cons c rest => simp

theorem digits_shift (n k : Nat) :
    Integer.Digits (Nat.toDigits 10 n ++ List.replicate k '0') (n * 10 ^ k) where
  nonempty := List.append_ne_nil_of_left_ne_nil Nat.toDigits_ne_nil _
  digits := by
    refine List.forall_mem_append.2 ⟨fun _ => Json.isDigit_of_mem_toDigits, fun c hc => ?_⟩
    rw [List.eq_of_mem_replicate hc]
    decide
  value := by
    rw [Nat.ofDigitChars_append, Nat.ofDigitChars_ten_toDigits, Nat.ofDigitChars_replicate_zero,
      Nat.mul_comm]

theorem digits_padded (n places : Nat) : Integer.Digits (Json.Literal.padded n places) n where
  nonempty := List.append_ne_nil_of_right_ne_nil _ Nat.toDigits_ne_nil
  digits := fun _ => Json.Literal.isDigit_of_mem_padded
  value := Json.Literal.ofDigitChars_padded n places

/-- The plain text of a decimal is its digits, with zeros for the exponent, or with the point in
front of as many as the exponent says. -/
theorem exists_positionalText (d : Decimal) : ∃ whole fraction,
    (DecimalStyle.plain.positionalText d).toList
        = whole ++ (if fraction = [] then [] else '.' :: fraction) ∧
      Integer.Digits (whole ++ fraction) (d.digits * 10 ^ d.exp.toNat) ∧
      fraction.length = (-d.exp).toNat := by
  by_cases hexp : 0 ≤ d.exp
  · refine ⟨Nat.toDigits 10 d.digits ++ List.replicate d.exp.toNat '0', [], ?_, ?_, ?_⟩
    · simp [DecimalStyle.positionalText, hexp, DecimalStyle.plain]
    · rw [List.append_nil]
      exact digits_shift _ _
    · rw [List.length_nil]
      omega
  · let places := (-d.exp).toNat
    let cut := (Json.Literal.padded d.digits places).length - places
    have hlength : ((Json.Literal.padded d.digits places).drop cut).length = places := by
      have := Json.Literal.length_padded d.digits places
      rw [List.length_drop]
      omega
    have hne : (Json.Literal.padded d.digits places).drop cut ≠ [] :=
      List.ne_nil_of_length_pos (by omega)
    refine ⟨(Json.Literal.padded d.digits places).take cut,
      (Json.Literal.padded d.digits places).drop cut, ?_, ?_, hlength⟩
    · rw [DecimalStyle.positionalText, if_neg hexp, if_neg hne]
      simp [Json.Literal.padded, cut, places]
    · rw [List.take_append_drop, show d.exp.toNat = 0 by omega, Nat.pow_zero, Nat.mul_one]
      exact digits_padded _ _

/-- The digits and the places that the plain text of a number is read as are those of its shortest
decimal. -/
theorem readParts_text (x : Binary64) :
    readParts (DecimalStyle.plain.text x).toList = decimalParts? x := by
  obtain ⟨whole, fraction, htext, hdigits, hlength⟩ :=
    exists_positionalText (x.shortest DecimalStyle.plain.tie)
  have hfront : ∀ c ∈ (if x.negative then "-" else "").toList ++ whole, c ≠ '.' := by
    refine List.forall_mem_append.2 ⟨?_, ?_⟩
    · cases x.negative with
      | true => exact List.forall_mem_singleton.2 (by decide)
      | false => exact List.forall_mem_nil _
    · rintro c hc rfl
      exact absurd (hdigits.digits _ (List.mem_append_left _ hc)) (by decide)
  have htoList : (DecimalStyle.plain.text x).toList
      = ((if x.negative then "-" else "").toList ++ whole)
        ++ (if fraction = [] then [] else '.' :: fraction) := by
    rw [DecimalStyle.text, String.toList_append, List.append_assoc, ← htext]
    rfl
  rw [htoList, readParts_append hfront, List.append_assoc,
    toOption_readInt fun j => Integer.denotes_sign_iff hdigits, hlength]
  rfl

/-! ### One scale for both -/

/-- The integer with so many zeros more, or the power of ten for them, does not fit 128 bits. -/
def Overflows (i : Int) (zeros : Nat) : Prop :=
  fitsInt128 ((10 ^ zeros : Nat) : Int) = false ∨ fitsInt128 (i * (10 ^ zeros : Nat)) = false

section
variable {x y : Binary64} {a b : Int} {s t zeros : Nat}

theorem scaled?_eq_none_iff : scaled? a zeros = none ↔ Overflows a zeros := by
  rw [scaled?, Overflows, int128?]
  cases fitsInt128 ((10 ^ zeros : Nat) : Int) with
  | false => simp
  | true => simp [int128?]

theorem scaled?_of_not_overflows (h : ¬ Overflows a zeros) :
    scaled? a zeros = some (a * (10 ^ zeros : Nat)) := by
  rw [Overflows, not_or, Bool.not_eq_false, Bool.not_eq_false] at h
  rw [scaled?, int128?, if_pos h.1, Option.bind_eq_bind, Option.bind_some, int128?, if_pos h.2]

theorem cast_ten_pow_ne_zero (n : Nat) : ((10 ^ n : Nat) : ℚ) ≠ 0 :=
  Nat.cast_ne_zero.2 (Nat.ne_of_gt (Nat.pow_pos (by decide)))

/-- A decimal with more zeros behind it, on a scale that is larger by as many places. -/
theorem div_ten_pow {scale : Nat} (h : s ≤ scale) :
    (a : ℚ) / (10 ^ s : Nat) = (a * (10 ^ (scale - s) : Nat) : Int) / (10 ^ scale : Nat) := by
  have hpow : 10 ^ scale = 10 ^ (scale - s) * 10 ^ s := by
    rw [← Nat.pow_add, Nat.sub_add_cancel h]
  have hs := cast_ten_pow_ne_zero s
  have hzeros := cast_ten_pow_ne_zero (scale - s)
  rw [hpow, Nat.cast_mul, Int.cast_mul, Int.cast_natCast]
  field_simp

theorem exists_multiple_iff {scale : Nat} (hs : s ≤ scale) (ht : t ≤ scale) :
    (∃ k : ℤ, (a : ℚ) / (10 ^ s : Nat) = k * ((b : ℚ) / (10 ^ t : Nat))) ↔
      b * (10 ^ (scale - t) : Nat) ∣ a * (10 ^ (scale - s) : Nat) := by
  rw [div_ten_pow hs, div_ten_pow ht]
  refine exists_congr fun k => ?_
  rw [← mul_div_assoc, div_left_inj' (cast_ten_pow_ne_zero scale), ← Int.cast_mul, Int.cast_inj,
    Int.mul_comm k]

theorem mul_zeros_eq_zero_iff : b * (10 ^ zeros : Nat) = 0 ↔ b = 0 := by
  have hne : ((10 ^ zeros : Nat) : Int) ≠ 0 :=
    Int.natCast_ne_zero.2 (Nat.ne_of_gt (Nat.pow_pos (by decide)))
  rw [Int.mul_eq_zero, or_iff_left hne]

/-- What is read of a number has fewer digits than 128 bits hold, or it ends with a zero. -/
theorem natAbs_lt_or_dvd_of_decimalParts? (h : decimalParts? x = some (a, s)) :
    a.natAbs < 10 ^ 38 ∨ 10 ∣ a.natAbs := by
  have hdigits := Binary64.digits_shortest_lt DecimalStyle.plain.tie x
  obtain ⟨i, hi, hpair⟩ := Option.map_eq_some_iff.1 h
  obtain ⟨rfl, -⟩ := Prod.mk.inj hpair
  rw [int128?, Option.ite_none_right_eq_some, Option.some_inj] at hi
  generalize x.shortest DecimalStyle.plain.tie = d at hi hdigits
  have habs : i.natAbs = d.digits * 10 ^ d.exp.toNat := by
    rw [← hi.2]
    split <;> omega
  rw [habs]
  cases d.exp.toNat with
  | zero => exact .inl (by rwa [Nat.pow_zero, Nat.mul_one])
  | succ k => exact .inr (Dvd.dvd.mul_left (dvd_pow_self 10 (Nat.succ_ne_zero k)) _)

/-- The smallest integer of 128 bits is not among the numbers to divide. It ends with no zero and
has more digits than a shortest decimal. -/
theorem mul_zeros_ne_min (h : decimalParts? x = some (a, s)) :
    a * (10 ^ zeros : Nat) ≠ -(2 ^ 127) := by
  intro hmin
  have habs : a.natAbs * 10 ^ zeros = 2 ^ 127 := by
    rw [← Int.natAbs_natCast (10 ^ zeros), ← Int.natAbs_mul, hmin]
    rfl
  have hzeros : zeros = 0 := by
    refine Nat.eq_zero_of_not_pos fun hpos => ?_
    have hten : 10 ∣ 2 ^ 127 := habs ▸ Dvd.dvd.mul_left (dvd_pow_self 10 (Nat.ne_of_gt hpos)) _
    exact absurd hten (by decide)
  rw [hzeros, Nat.pow_zero, Nat.mul_one] at habs
  rcases natAbs_lt_or_dvd_of_decimalParts? h with hlt | hten
  · exact absurd habs (Nat.ne_of_lt (Nat.lt_trans hlt (by decide)))
  · rw [habs] at hten
    exact absurd hten (by decide)

theorem test_eq_true_iff : (b != 0 && a.tmod b == 0) = true ↔ b ≠ 0 ∧ b ∣ a := by
  rw [Bool.and_eq_true, bne_iff_ne, beq_iff_eq, Int.dvd_iff_tmod_eq_zero]

theorem decimalMultiple?_eq_none_iff (hx : decimalParts? x = some (a, s))
    (hy : decimalParts? y = some (b, t)) : decimalMultiple? x y = none ↔
      Overflows a (max s t - s) ∨ Overflows b (max s t - t) := by
  rw [decimalMultiple?_eq, hx, hy, Option.bind_some, Option.bind_some, ← scaled?_eq_none_iff,
    ← scaled?_eq_none_iff]
  cases scaled? a (max s t - s) <;> cases scaled? b (max s t - t) <;> simp

theorem of_decimalMultiple?_eq_some {r : Bool} (hx : decimalParts? x = some (a, s))
    (hy : decimalParts? y = some (b, t)) (h : decimalMultiple? x y = some r) : r = true ↔
      b ≠ 0 ∧ b * (10 ^ (max s t - t) : Nat) ∣ a * (10 ^ (max s t - s) : Nat) := by
  have hfits : ¬ (Overflows a (max s t - s) ∨ Overflows b (max s t - t)) := by
    rw [← decimalMultiple?_eq_none_iff hx hy, h]
    exact Option.some_ne_none r
  rw [not_or] at hfits
  rw [decimalMultiple?_eq, hx, hy, Option.bind_some, Option.bind_some,
    scaled?_of_not_overflows hfits.1, scaled?_of_not_overflows hfits.2, Option.bind_some,
    Option.bind_some, Option.some_inj] at h
  rw [← h, test_eq_true_iff, ne_eq, mul_zeros_eq_zero_iff]

end

/-- On the decimals that the texts of two numbers are read as, divisibility is decided as it is of
rationals: an answer says whether the one is an integer multiple of the other and that one is not
zero. There is none just where a power of ten or a number brought to the common scale does not fit
128 bits. The remainder itself always does. -/
theorem decimalMultiple?_exact {x y : Binary64} {a b : Int} {s t : Nat}
    (hx : readParts (DecimalStyle.plain.text x).toList = some (a, s))
    (hy : readParts (DecimalStyle.plain.text y).toList = some (b, t)) :
    (∀ r, decimalMultiple? x y = some r → (r = true ↔
      b ≠ 0 ∧ ∃ k : ℤ, (a : ℚ) / (10 ^ s : Nat) = k * ((b : ℚ) / (10 ^ t : Nat)))) ∧
    (decimalMultiple? x y = none ↔
      Overflows a (max s t - s) ∨ Overflows b (max s t - t)) ∧
    a * (10 ^ (max s t - s) : Nat) ≠ -(2 ^ 127) := by
  rw [readParts_text] at hx hy
  refine ⟨fun r hr => ?_, decimalMultiple?_eq_none_iff hx hy, mul_zeros_ne_min hx⟩
  rw [exists_multiple_iff (Nat.le_max_left s t) (Nat.le_max_right s t)]
  exact of_decimalMultiple?_eq_some hx hy hr

/-- A negative number with one decimal place, by a quarter, which has two. -/
theorem decimalMultiple?_exact_quarter :
    let x : Binary64 := ⟨true, 15 * 2 ^ 49, 1024, by decide⟩
    let y : Binary64 := ⟨false, 2 ^ 52, 1020, by decide⟩
    readParts (DecimalStyle.plain.text x).toList = some (-75, 1) ∧
      readParts (DecimalStyle.plain.text y).toList = some (25, 2) ∧
      decimalMultiple? x y = some true ∧
      ∃ k : ℤ, ((-75 : Int) : ℚ) / (10 ^ 1 : Nat) = k * (((25 : Int) : ℚ) / (10 ^ 2 : Nat)) := by
  intro x y
  have hx : readParts (DecimalStyle.plain.text x).toList = some (-75, 1) := by decide +kernel
  have hy : readParts (DecimalStyle.plain.text y).toList = some (25, 2) := by decide +kernel
  have hmultiple : decimalMultiple? x y = some true := by decide +kernel
  exact ⟨hx, hy, hmultiple, (((decimalMultiple?_exact hx hy).1 true hmultiple).1 rfl).2⟩

end RowQuery.MultipleOf
