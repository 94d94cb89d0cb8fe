import RowQuery.Proofs.Json.Literal
import RowQuery.Proofs.Json.NumberText
/-!
The text of every float is read as a float.

The text of a number is a literal with a point or an exponent, and stands for the shortest decimal
of the number. Reading rounds more than once, so it may end at a neighbour of the number that was
written. It does not end beyond the largest one, though: the decimal is secure unless it is that of
the two largest numbers, and their texts are read to the end here.
-/

namespace RowQuery.Json

open Reader Writer

namespace Literal

/-! ### Texts of literals -/

/-- The text is read as the literal, and nothing is left of it. -/
def Spells (l : Literal) (text : List Char) : Prop :=
  ∃ s t, wholePart text = some (l.whole, s) ∧ fractionPart s = some (l.fraction, t) ∧
    exponentPart t = some (l.exponent, [])

/-- A literal with a point or an exponent is a float. -/
theorem unsigned_of_spells {l : Literal} {text : List Char} (h : l.Spells text)
    (hmark : (!l.fraction.isEmpty || l.exponent.isSome) = true) (negative : Bool) :
    unsigned negative text = (l.float? negative).map fun x => (.float x, []) := by
  obtain ⟨s, t, hwhole, hfraction, hexponent⟩ := h
  have hint : l.int? negative = none := by rw [int?, if_pos hmark]
  simp only [unsigned, hwhole, hfraction, hexponent, Option.bind_eq_bind, Option.bind_some,
    number?, hint]
  cases l.float? negative <;> rfl

theorem head_eq_false {c : Char} (hc : c.isDigit = false) (rest : List Char) :
    ∀ d ∈ (c :: rest).head?, d.isDigit = false := by
  rintro d ⟨⟩
  exact hc

theorem digits_of_isDigit {ds : List Char} (hds : ∀ d ∈ ds, d.isDigit = true) (hne : ds ≠ []) :
    digits ds = some (ds, []) := by
  have hdigits : digits (ds ++ []) = some (ds, []) := digits_append (by simp) hds hne
  rwa [List.append_nil] at hdigits

/-- Digits, a point and more digits. -/
theorem spells_point {whole fraction : List Char} (hwhole : IsWhole whole)
    (hfraction : ∀ d ∈ fraction, d.isDigit = true) (hne : fraction ≠ []) :
    Spells ⟨whole, fraction, none⟩ (whole ++ '.' :: fraction) :=
  ⟨_, _, wholePart_append (head_eq_false (by decide) _) hwhole,
    digits_of_isDigit hfraction hne, rfl⟩

theorem exponentPart_sign (e : Int) :
    exponentPart ('e' :: (if 0 ≤ e then '+' else '-') :: Nat.toDigits 10 e.natAbs)
      = some (some e, []) := by
  have hdigits : digits (Nat.toDigits 10 e.natAbs) = some (Nat.toDigits 10 e.natAbs, []) :=
    digits_of_isDigit (fun _ => isDigit_of_mem_toDigits) Nat.toDigits_ne_nil
  rw [exponentPart, if_pos (.inl rfl)]
  split
  · simp only [exponentDigits, hdigits, Option.map_some, Nat.ofDigitChars_ten_toDigits]
    congr 3
    omega
  · simp only [exponentDigits, hdigits, Option.map_some, Nat.ofDigitChars_ten_toDigits]
    congr 3
    omega

/-- A digit, more digits after a point if there are any, and an exponent. -/
theorem spells_exponent {c : Char} {rest : List Char} (hc : c.isDigit = true)
    (hrest : ∀ d ∈ rest, d.isDigit = true) (e : Int) :
    Spells ⟨[c], rest, some e⟩ (c :: ((if rest = [] then [] else '.' :: rest)
      ++ 'e' :: (if 0 ≤ e then '+' else '-') :: Nat.toDigits 10 e.natAbs)) := by
  have hwhole : IsWhole [c] := by
    refine ⟨List.forall_mem_singleton.2 hc, List.cons_ne_nil _ _, fun more hmore => ?_⟩
    exact (List.cons.inj hmore).2.symm
  refine ⟨_, _, wholePart_append ?_ hwhole, ?_, exponentPart_sign e⟩
  · split
    · exact head_eq_false (by decide) _
    · exact head_eq_false (by decide) _
  · split
    · next hnil =>
      rw [hnil]
      rfl
    · next hne => exact digits_append (head_eq_false (by decide) _) hrest hne

/-! ### The texts of a decimal -/

/-- A float literal that stands for no more than a decimal, and whose whole part 64 bits hold. -/
structure StandsFor (l : Literal) (d : Decimal) : Prop where
  marked : (!l.fraction.isEmpty || l.exponent.isSome) = true
  whole : Nat.ofDigitChars 10 l.whole 0 ≤ maxUInt64
  atMost : ∀ {quarters : Nat}, d.AtMost quarters → l.decimal.AtMost quarters

theorem le_maxUInt64_of_lt {n k : Nat} (h : n < 10 ^ k) (hk : k ≤ 16) : n ≤ maxUInt64 :=
  Nat.le_trans (Nat.le_of_lt (Nat.lt_of_lt_of_le h (Nat.pow_le_pow_right (by decide) hk)))
    (by decide)

theorem lt_ten_pow_length (n : Nat) : n < 10 ^ (Nat.toDigits 10 n).length :=
  (Nat.length_toDigits_le_iff (by decide) Nat.length_toDigits_pos).1 (Nat.le_refl _)

theorem isWhole_cons {c : Char} {cs : List Char} (hc : c ≠ '0')
    (h : ∀ d ∈ c :: cs, d.isDigit = true) : IsWhole (c :: cs) :=
  ⟨h, List.cons_ne_nil _ _, fun _ heq => absurd (List.cons.inj heq).1 hc⟩

theorem whole_le_maxUInt64 {whole fraction : List Char}
    (h : (Nat.toDigits 10 (Nat.ofDigitChars 10 (whole ++ fraction) 0)).length
      ≤ fraction.length + 16) : Nat.ofDigitChars 10 whole 0 ≤ maxUInt64 := by
  have hle := shift_le_ofDigitChars fraction (Nat.ofDigitChars 10 whole 0)
  rw [← Nat.ofDigitChars_append] at hle
  refine le_maxUInt64_of_lt (k := 16)
    (Nat.lt_of_mul_lt_mul_right (a := 10 ^ fraction.length) ?_) (Nat.le_refl _)
  rw [← Nat.pow_add]
  exact Nat.lt_of_le_of_lt hle (Nat.lt_of_lt_of_le (lt_ten_pow_length _)
    (Nat.pow_le_pow_right (by decide) (by omega)))

section
variable {d : Decimal}

/-- Zeros are written for the exponent, and one more after the point. -/
theorem exists_spells_of_nonneg {k : Nat} (hexp : d.exp = k) (hzero : d.digits = 0 → k = 0)
    (hfirst : (Nat.toDigits 10 d.digits).length + k ≤ 16) :
    ∃ l : Literal, l.Spells (DecimalStyle.json.positionalText d).toList ∧ l.StandsFor d := by
  have htext : (DecimalStyle.json.positionalText d).toList
      = (Nat.toDigits 10 d.digits ++ List.replicate k '0') ++ '.' :: ['0'] := by
    rw [DecimalStyle.positionalText, hexp]
    simp [DecimalStyle.json]
  have hdigits : ∀ c ∈ Nat.toDigits 10 d.digits ++ List.replicate k '0', c.isDigit = true := by
    refine List.forall_mem_append.2 ⟨fun _ => isDigit_of_mem_toDigits, fun c hc => ?_⟩
    rw [List.eq_of_mem_replicate hc]
    decide
  have hwhole : IsWhole (Nat.toDigits 10 d.digits ++ List.replicate k '0') := by
    by_cases hn : d.digits = 0
    · rw [hzero hn, List.replicate_zero, List.append_nil]
      exact isWhole_toDigits _
    · obtain ⟨c, cs, hcs, hc⟩ := exists_toDigits_ne_zero hn
      rw [hcs] at hdigits ⊢
      exact isWhole_cons hc hdigits
  have hvalue : Nat.ofDigitChars 10 (Nat.toDigits 10 d.digits ++ List.replicate k '0') 0
      = d.digits * 10 ^ k := by
    rw [Nat.ofDigitChars_append, Nat.ofDigitChars_ten_toDigits, Nat.ofDigitChars_replicate_zero,
      Nat.mul_comm]
  refine ⟨_, htext ▸ spells_point hwhole (List.forall_mem_singleton.2 (by decide))
    (List.cons_ne_nil _ _), rfl, ?_, fun {quarters} h => ?_⟩
  · refine le_maxUInt64_of_lt (k := (Nat.toDigits 10 d.digits).length + k) ?_ hfirst
    rw [hvalue, Nat.pow_add]
    exact Nat.mul_lt_mul_of_pos_right (lt_ten_pow_length _) (Nat.pow_pos (by decide))
  · have hten : Nat.ofDigitChars 10 ((Nat.toDigits 10 d.digits ++ List.replicate k '0') ++ ['0']) 0
        = d.digits * 10 ^ (k + 1) := by
      rw [Nat.ofDigitChars_append, hvalue, Nat.pow_succ, ← Nat.mul_assoc, Nat.mul_comm _ 10]
      rfl
    rw [decimal, hten, Decimal.atMost_mul_ten_pow]
    rwa [show (none.getD 0 : Int) - (['0'].length : Nat) + (k + 1 : Nat) = d.exp by
      rw [hexp, List.length_singleton, Option.getD_none]; omega]

/-- The digits of a decimal with so many places after the point, and zeros before them if there are
too few. -/
def padded (n places : Nat) : List Char :=
  List.replicate (places + 1 - (Nat.toDigits 10 n).length) '0' ++ Nat.toDigits 10 n

theorem isDigit_of_mem_padded {n places : Nat} {c : Char} (hc : c ∈ padded n places) :
    c.isDigit = true := by
  rcases List.mem_append.1 hc with hc | hc
  · rw [List.eq_of_mem_replicate hc]
    decide
  · exact isDigit_of_mem_toDigits hc

theorem length_padded (n places : Nat) :
    (padded n places).length = max (Nat.toDigits 10 n).length (places + 1) := by
  rw [padded, List.length_append, List.length_replicate]
  omega

theorem ofDigitChars_padded (n places : Nat) : Nat.ofDigitChars 10 (padded n places) 0 = n := by
  rw [padded, Nat.ofDigitChars_append, Nat.ofDigitChars_replicate_zero, Nat.mul_zero,
    Nat.ofDigitChars_ten_toDigits]

/-- Before the point stand digits of the number, or one zero. -/
theorem isWhole_take_padded {n places : Nat} (hplaces : 0 < places) :
    IsWhole ((padded n places).take ((padded n places).length - places)) := by
  have hdigits : ∀ c ∈ (padded n places).take ((padded n places).length - places),
      c.isDigit = true := fun c hc => isDigit_of_mem_padded (List.mem_of_mem_take hc)
  rw [length_padded] at hdigits ⊢
  rcases Nat.lt_or_ge places (Nat.toDigits 10 n).length with hlt | hge
  · have hn : n ≠ 0 := by
      rintro rfl
      rw [Nat.toDigits_zero, List.length_singleton] at hlt
      omega
    obtain ⟨c, cs, hcs, hc⟩ := exists_toDigits_ne_zero hn
    have hpadded : padded n places = c :: cs := by
      rw [padded, Nat.sub_eq_zero_of_le hlt, List.replicate_zero, List.nil_append, hcs]
    obtain ⟨k, hk⟩ : ∃ k, max (Nat.toDigits 10 n).length (places + 1) - places = k + 1 :=
      ⟨_, (Nat.succ_pred_eq_of_pos (by omega)).symm⟩
    rw [hpadded, hk, List.take_succ_cons] at hdigits ⊢
    exact isWhole_cons hc hdigits
  · have htake : max (Nat.toDigits 10 n).length (places + 1) - places = 1 := by omega
    obtain ⟨k, hk⟩ : ∃ k, places + 1 - (Nat.toDigits 10 n).length = k + 1 :=
      ⟨_, (Nat.succ_pred_eq_of_pos (by omega)).symm⟩
    rw [htake, padded, hk, List.replicate_succ, List.cons_append, List.take_succ_cons,
      List.take_zero]
    exact isWhole_toDigits 0

/-- The point stands before as many digits as the exponent says. -/
theorem exists_spells_of_neg {places : Nat} (hplaces : 0 < places) (hexp : d.exp = -places)
    (hfirst : (Nat.toDigits 10 d.digits).length ≤ places + 16) :
    ∃ l : Literal, l.Spells (DecimalStyle.json.positionalText d).toList ∧ l.StandsFor d := by
  let cut := (padded d.digits places).length - places
  have htext : (DecimalStyle.json.positionalText d).toList
      = (padded d.digits places).take cut ++ '.' :: (padded d.digits places).drop cut := by
    rw [DecimalStyle.positionalText, if_neg (by omega), hexp, Int.neg_neg, Int.toNat_natCast]
    simp [padded, cut]
  have hwhole : IsWhole ((padded d.digits places).take cut) := isWhole_take_padded hplaces
  have hdigits : ∀ c ∈ (padded d.digits places).drop cut, c.isDigit = true :=
    fun _ hc => isDigit_of_mem_padded (List.mem_of_mem_drop hc)
  have hlength : ((padded d.digits places).drop cut).length = places := by
    have hpadded := length_padded d.digits places
    rw [List.length_drop]
    omega
  have hvalue := ofDigitChars_padded d.digits places
  rw [← List.take_append_drop cut (padded d.digits places)] at hvalue
  generalize (padded d.digits places).take cut = whole at *
  generalize (padded d.digits places).drop cut = fraction at *
  have hne : fraction ≠ [] := List.ne_nil_of_length_pos (by omega)
  refine ⟨⟨whole, fraction, none⟩, htext ▸ spells_point hwhole hdigits hne, ?_, ?_,
    fun {quarters} h => ?_⟩
  · simp [hne]
  · exact whole_le_maxUInt64 (hvalue ▸ hlength ▸ hfirst)
  · have hplace : (none.getD 0 : Int) - (fraction.length : Nat) = d.exp := by
      rw [hlength, hexp, Option.getD_none, Int.zero_sub]
    rwa [decimal, hvalue, hplace]

theorem toList_exponentText {c : Char} {rest : List Char}
    (h : Nat.toDigits 10 d.digits = c :: rest) :
    (DecimalStyle.exponentText d).toList = c :: ((if rest = [] then [] else '.' :: rest)
      ++ 'e' :: (if 0 ≤ d.firstExponent then '+' else '-')
        :: Nat.toDigits 10 d.firstExponent.natAbs) := by
  rw [DecimalStyle.exponentText, h]
  by_cases he : 0 ≤ d.firstExponent <;> cases rest <;> simp [he]

/-- An exponent follows the digits, of which the first one stands before the point. -/
theorem exists_spells_exponentText (hd : d.digits ≠ 0) :
    ∃ l : Literal, l.Spells (DecimalStyle.exponentText d).toList ∧ l.StandsFor d := by
  obtain ⟨c, rest, hcs, hc⟩ := exists_isDigit_toDigits d.digits
  have hrest : ∀ r ∈ rest, r.isDigit = true := fun r hr =>
    isDigit_of_mem_toDigits (n := d.digits) (hcs ▸ List.mem_cons_of_mem c hr)
  have hvalue : Nat.ofDigitChars 10 ([c] ++ rest) 0 = d.digits := by
    rw [List.singleton_append, ← hcs, Nat.ofDigitChars_ten_toDigits]
  have hfirst : d.firstExponent = d.exp + rest.length := by
    rw [Decimal.firstExponent, if_neg hd, hcs, List.length_cons, Nat.add_sub_cancel]
  refine ⟨⟨[c], rest, some d.firstExponent⟩,
    toList_exponentText hcs ▸ spells_exponent hc hrest d.firstExponent, ?_, ?_,
    fun {quarters} h => ?_⟩
  · simp
  · apply whole_le_maxUInt64
    rw [hvalue, hcs, List.length_cons]
    omega
  · rwa [decimal, hvalue, hfirst, Option.getD_some, Int.add_sub_cancel]

/-- The text of a decimal stands for it. -/
theorem exists_spells (hzero : d.digits = 0 → d.exp ≤ 0) :
    ∃ l : Literal, l.Spells (if DecimalStyle.json.positional d.firstExponent
        then DecimalStyle.json.positionalText d else DecimalStyle.exponentText d).toList ∧
      l.StandsFor d := by
  have hlength := Nat.length_toDigits_pos (b := 10) (n := d.digits)
  by_cases hpositional : DecimalStyle.json.positional d.firstExponent = true
  · rw [if_pos hpositional]
    have hfirst : d.exp + (Nat.toDigits 10 d.digits).length ≤ 16 := by
      have hlast : d.firstExponent ≤ 15 := by
        simp only [DecimalStyle.json, Bool.and_eq_true, decide_eq_true_eq] at hpositional
        exact hpositional.2
      by_cases hd : d.digits = 0
      · have hexp := hzero hd
        rw [hd, Nat.toDigits_zero, List.length_singleton]
        omega
      · rw [Decimal.firstExponent, if_neg hd] at hlast
        omega
    rcases Int.lt_or_le d.exp 0 with hexp | hexp
    · obtain ⟨places, hplaces⟩ := Int.eq_ofNat_of_zero_le (show 0 ≤ -d.exp by omega)
      exact exists_spells_of_neg (by omega) (show d.exp = -places by omega) (by omega)
    · exact exists_spells_of_nonneg (k := d.exp.toNat) (by omega) (by omega) (by omega)
  · rw [if_neg hpositional]
    refine exists_spells_exponentText fun hd => hpositional ?_
    rw [Decimal.firstExponent, if_pos hd]
    rfl

end
end Literal

/-! ### Floats -/

/-- Whether a text was read as a float to its end. -/
def isFloat : Option (Number × List Char) → Bool
  | some (.float _, []) => true
  | _ => false

theorem exists_of_isFloat {found : Option (Number × List Char)} (h : isFloat found = true) :
    ∃ y, found = some (.float y, []) := by
  unfold isFloat at h
  split at h
  · exact ⟨_, rfl⟩
  · cases h

/-- The texts of the two largest numbers of either sign are read as floats. -/
theorem isFloat_largest : ∀ negative : Bool, ∀ k < 2,
    (Binary64.ofParts? negative (2 ^ 53 - 2 + k) Binary64.maxExp).all
      (fun x => isFloat (number (numberText (.float x)))) = true := by
  decide +kernel

theorem exists_number_of_largest {x : Binary64}
    (hx : 2 ^ 53 - 2 ≤ x.mant ∧ x.exp = Binary64.maxExp) :
    ∃ y, number (numberText (.float x)) = some (.float y, []) := by
  have hlt : x.mant < 2 ^ 53 := x.normal.1
  have hlargest := isFloat_largest x.negative (x.mant - (2 ^ 53 - 2)) (by omega)
  rw [Nat.add_sub_cancel' hx.1, ← hx.2, Binary64.ofParts?_eq, Option.all_some] at hlargest
  exact exists_of_isFloat hlargest

theorem number_of_unsigned {negative : Bool} {text left : List Char} {n : Number}
    (h : unsigned negative text = some (n, left)) :
    number ((if negative then "-" else "").toList ++ text) = some (n, left) := by
  cases negative with
  | true => exact h
  | false =>
    obtain ⟨c, cs, rfl, hc⟩ := exists_cons_of_unsigned h
    rw [if_neg Bool.false_ne_true, String.toList_empty, List.nil_append, number]
    · exact h
    · intro rest heq
      rw [(List.cons.inj heq).1] at hc
      exact absurd hc (by decide)

/-- The text of a float is read as a float. -/
theorem exists_number_float (x : Binary64) :
    ∃ y, number (numberText (.float x)) = some (.float y, []) := by
  by_cases hlargest : 2 ^ 53 - 2 ≤ x.mant ∧ x.exp = Binary64.maxExp
  · exact exists_number_of_largest hlargest
  · obtain ⟨l, hspells, hstands⟩ :=
      Literal.exists_spells (Binary64.exp_shortest_le DecimalStyle.json.tie (x := x))
    have hsecure := (Binary64.atMost_shortest DecimalStyle.json.tie x).mono
      (Binary64.high_le_secure hlargest)
    obtain ⟨y, hy⟩ := Option.isSome_iff_exists.1
      (Literal.isSome_float? x.negative hstands.whole (hstands.atMost hsecure))
    have hunsigned := Literal.unsigned_of_spells hspells hstands.marked x.negative
    rw [hy, Option.map_some] at hunsigned
    refine ⟨y, ?_⟩
    rw [numberText, DecimalStyle.text, String.toList_append]
    exact number_of_unsigned hunsigned

end RowQuery.Json
