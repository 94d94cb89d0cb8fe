import RowQuery.Number.Binary64
import RowQuery.Proofs.Outcome
import RowQuery.Text.Integer
/-!
Which texts are integers.

An integer is written in decimal digits with a sign in front or without one. Reading stops at the
first digit that leads out of the bounds; as more digits never make a magnitude smaller, it accepts
exactly the texts whose whole value is within them.
-/

namespace RowQuery

/-- Each digit more shifts what stands before it by one place. -/
theorem shift_le_ofDigitChars (ds : List Char) (n : Nat) :
    n * 10 ^ ds.length ≤ Nat.ofDigitChars 10 ds n := by
  induction ds generalizing n with
  | nil => exact Nat.le_of_eq (Nat.mul_one n)
  | cons d ds ih =>
    rw [Nat.ofDigitChars_cons, List.length_cons]
    calc n * 10 ^ (ds.length + 1) = 10 * n * 10 ^ ds.length := by
          rw [Nat.pow_succ, Nat.mul_comm 10 n, Nat.mul_assoc, Nat.mul_comm 10]
      _ ≤ (10 * n + (d.toNat - '0'.toNat)) * 10 ^ ds.length :=
          Nat.mul_le_mul_right _ (Nat.le_add_right ..)
      _ ≤ _ := ih _

theorem le_ofDigitChars (ds : List Char) (n : Nat) : n ≤ Nat.ofDigitChars 10 ds n :=
  Nat.le_trans (Nat.le_mul_of_pos_right _ (Nat.pow_pos (by decide))) (shift_le_ofDigitChars ds n)

namespace Integer

/-- The text is of digits, one at least, which denote a number. -/
structure Digits (s : List Char) (n : Nat) : Prop where
  nonempty : s ≠ []
  digits : ∀ c ∈ s, c.isDigit = true
  value : Nat.ofDigitChars 10 s 0 = n

/-- The text denotes a natural number: digits, or a plus sign and digits. -/
def DenotesNat (s : List Char) (n : Nat) : Prop :=
  Digits s n ∨ ∃ rest, s = '+' :: rest ∧ Digits rest n

/-- The text denotes an integer: a natural number, or a minus sign and digits. -/
def Denotes (s : List Char) (i : Int) : Prop :=
  (∃ n : Nat, DenotesNat s n ∧ i = n) ∨ ∃ rest n, s = '-' :: rest ∧ Digits rest n ∧ i = -(n : Int)

section
variable {bound n : Nat} {beyond : IntegerError} {s rest : List Char}

theorem readDigits_eq_ok {sofar : Nat} (h : sofar ≤ bound) :
    readDigits bound beyond sofar s = .ok n ↔
      (∀ c ∈ s, c.isDigit = true) ∧ Nat.ofDigitChars 10 s sofar = n ∧ n ≤ bound := by
  induction s generalizing sofar with
  | nil =>
    simp only [readDigits, Nat.ofDigitChars_nil, Except.ok.injEq]
    constructor
    · rintro rfl
      exact ⟨by simp, rfl, h⟩
    · exact fun h => h.2.1
  | cons c rest ih =>
    rw [readDigits, List.forall_mem_cons, Nat.ofDigitChars_cons]
    by_cases hc : c.isDigit = true
    · rw [if_pos hc]
      dsimp only
      split
      · next hle => rw [ih hle, and_iff_right hc]; rfl
      · next hlt =>
        -- no digits behind it make up for a digit that leads out of the bound
        refine iff_of_false (by simp) ?_
        rintro ⟨-, rfl, hle⟩
        exact hlt (Nat.le_trans (le_ofDigitChars rest _) hle)
    · simp [hc]

theorem readMagnitude_eq_ok :
    readMagnitude bound beyond s = .ok n ↔ Digits s n ∧ n ≤ bound := by
  unfold readMagnitude
  split
  · exact iff_of_false (by simp) fun h => h.1.nonempty rfl
  · next hne =>
    rw [readDigits_eq_ok (Nat.zero_le _)]
    constructor
    · rintro ⟨hdigits, hvalue, hle⟩
      exact ⟨⟨hne, hdigits, hvalue⟩, hle⟩
    · rintro ⟨h, hle⟩
      exact ⟨h.digits, h.value, hle⟩

theorem Digits.head_isDigit {c : Char} (h : Digits (c :: rest) n) : c.isDigit = true :=
  h.digits c (List.mem_cons_self ..)

theorem Digits.exists_cons (h : Digits s n) : ∃ c rest, s = c :: rest ∧ c.isDigit = true := by
  cases s with
  | nil => exact absurd rfl h.nonempty
  | cons c rest => exact ⟨c, rest, rfl, h.head_isDigit⟩

/-- What denotes an integer begins with a digit or a sign. -/
theorem Denotes.exists_cons {i : Int} (h : Denotes s i) :
    ∃ c rest, s = c :: rest ∧ (c.isDigit = true ∨ c = '+' ∨ c = '-') := by
  rcases h with ⟨n, h | ⟨rest, rfl, -⟩, -⟩ | ⟨rest, n, rfl, -⟩
  · obtain ⟨c, rest, rfl, hc⟩ := h.exists_cons
    exact ⟨c, rest, rfl, .inl hc⟩
  · exact ⟨_, rest, rfl, .inr (.inl rfl)⟩
  · exact ⟨_, rest, rfl, .inr (.inr rfl)⟩

/-- A text is read as a natural number just when it denotes one within the bound. -/
theorem readNat_eq_ok : readNat bound s = .ok n ↔ DenotesNat s n ∧ n ≤ bound := by
  unfold readNat DenotesNat
  split
  · refine iff_of_false (by simp) ?_
    rintro ⟨h | ⟨rest, h, -⟩, -⟩
    · exact h.nonempty rfl
    · cases h
  · next rest =>
    rw [readMagnitude_eq_ok]
    refine and_congr_left fun _ => ⟨fun h => .inr ⟨rest, rfl, h⟩, ?_⟩
    rintro (h | ⟨_, ⟨⟩, h⟩)
    · exact absurd h.head_isDigit (by decide)
    · exact h
  · next hplus =>
    rw [readMagnitude_eq_ok]
    refine and_congr_left fun _ => ⟨.inl, ?_⟩
    rintro (h | ⟨rest, rfl, -⟩)
    · exact h
    · exact absurd rfl (hplus rest)

theorem not_denotesNat_minus : ¬ DenotesNat ('-' :: rest) n := by
  rintro (h | ⟨_, h, -⟩)
  · exact absurd h.head_isDigit (by decide)
  · cases h

theorem readInt_minus_eq_ok {i : Int} : readInt bound ('-' :: rest) = .ok i ↔
    ∃ n : Nat, readMagnitude (bound + 1) .tooSmall rest = .ok n ∧ -(n : Int) = i := by
  simp only [readInt, map_eq_ok, bind_eq_ok, pure_eq_ok]
  constructor
  · rintro ⟨_, ⟨n, hn, rfl⟩, hi⟩
    exact ⟨n, hn, hi⟩
  · rintro ⟨n, hn, hi⟩
    exact ⟨n, ⟨n, hn, rfl⟩, hi⟩

/-- Without a minus sign an integer is read as a natural number. -/
theorem readInt_eq_ok_of_ne_minus {i : Int} (hminus : ∀ rest, s ≠ '-' :: rest) :
    readInt bound s = .ok i ↔ ∃ n : Nat, readNat bound s = .ok n ∧ (n : Int) = i := by
  have hread : readInt bound s = (readNat bound s >>= fun n => pure (n : Int)).map id := by
    unfold readInt
    split
    · rfl
    · exact absurd rfl (hminus _)
    · rfl
    · next hplus => rw [readNat.eq_3 bound s (by assumption) hplus]; rfl
  rw [hread, map_eq_ok]
  constructor
  · rintro ⟨_, hn, rfl⟩
    obtain ⟨n, hn, hi⟩ := bind_eq_ok.1 hn
    exact ⟨n, hn, pure_eq_ok.1 hi⟩
  · rintro ⟨n, hn, rfl⟩
    exact ⟨_, bind_eq_ok.2 ⟨n, hn, rfl⟩, rfl⟩

/-- A text is read as an integer just when it denotes one within the bounds. -/
theorem readInt_eq_ok {i : Int} :
    readInt bound s = .ok i ↔ Denotes s i ∧ -(bound + 1 : Int) ≤ i ∧ i ≤ bound := by
  by_cases hminus : ∃ rest, s = '-' :: rest
  · obtain ⟨rest, rfl⟩ := hminus
    rw [readInt_minus_eq_ok]
    constructor
    · rintro ⟨n, hn, rfl⟩
      obtain ⟨hdigits, hle⟩ := readMagnitude_eq_ok.1 hn
      exact ⟨.inr ⟨rest, n, rfl, hdigits, rfl⟩, by omega, by omega⟩
    · rintro ⟨⟨n, hn, -⟩ | ⟨_, n, ⟨⟩, hdigits, rfl⟩, hlower, -⟩
      · exact absurd hn not_denotesNat_minus
      · exact ⟨n, readMagnitude_eq_ok.2 ⟨hdigits, by omega⟩, rfl⟩
  · rw [readInt_eq_ok_of_ne_minus fun rest h => hminus ⟨rest, h⟩]
    constructor
    · rintro ⟨n, hn, rfl⟩
      obtain ⟨hdenotes, hle⟩ := readNat_eq_ok.1 hn
      exact ⟨.inl ⟨n, hdenotes, rfl⟩, by omega, by omega⟩
    · rintro ⟨⟨n, hn, rfl⟩ | ⟨rest, _, hs, -⟩, -, hupper⟩
      · exact ⟨n, readNat_eq_ok.2 ⟨hn, by omega⟩, rfl⟩
      · exact absurd ⟨rest, hs⟩ hminus

end

/-- Digits behind a minus sign denote the negative of what they denote alone. -/
theorem denotes_sign_iff {negative : Bool} {ds : List Char} {n : Nat} {i : Int}
    (h : Digits ds n) : Denotes ((if negative then "-" else "").toList ++ ds) i ↔
      i = if negative then -(n : Int) else n := by
  cases negative with
  | true =>
    constructor
    · rintro (⟨m, hm, -⟩ | ⟨rest, m, hrest, hm, rfl⟩)
      · exact absurd hm not_denotesNat_minus
      · obtain ⟨-, rfl⟩ := List.cons.inj hrest
        rw [← hm.value, ← h.value]
        rfl
    · rintro rfl
      exact .inr ⟨ds, n, rfl, h, rfl⟩
  | false =>
    obtain ⟨c, rest, rfl, hc⟩ := h.exists_cons
    constructor
    · rintro (⟨m, hm | ⟨more, hmore, -⟩, rfl⟩ | ⟨more, m, hmore, -⟩)
      · rw [← hm.value, ← h.value]
        rfl
      · rw [(List.cons.inj hmore).1] at hc
        exact absurd hc (by decide)
      · rw [(List.cons.inj hmore).1] at hc
        exact absurd hc (by decide)
    · rintro rfl
      exact .inl ⟨n, .inl h, rfl⟩

end Integer
end RowQuery
