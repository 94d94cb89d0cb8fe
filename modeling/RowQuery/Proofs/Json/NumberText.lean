import Mathlib.Data.List.TakeWhile
import RowQuery.Proofs.Json.RoundTrip
import RowQuery.Proofs.Outcome
/-!
Numbers among other text.

A reader of a number stops where the number does. So a text that reads as a number and leaves
nothing reads as that number before whatever does not prolong it, and of the text of a number only
has to be known that it reads back alone.
-/

namespace RowQuery.Json

open Writer Reader

/-- What is read of a text is read of it too when something follows that prolongs no number. -/
def Reader.Stops {α : Type} (r : Reader α) : Prop :=
  ∀ {s left : List Char} {x : α}, r s = some (x, left) → ∀ {rest : List Char}, StopsNumber rest →
    r (s ++ rest) = some (x, left ++ rest)

theorem digits_eq_ite (s : List Char) :
    digits s = if s.takeWhile Char.isDigit = [] then none
      else some (s.takeWhile Char.isDigit, s.dropWhile Char.isDigit) := by
  rw [digits, List.span_eq_takeWhile_dropWhile]
  cases s.takeWhile Char.isDigit <;> rfl

theorem span_isDigit_append (s : List Char) {rest : List Char} (hrest : StopsNumber rest) :
    (s ++ rest).takeWhile Char.isDigit = s.takeWhile Char.isDigit ∧
      (s ++ rest).dropWhile Char.isDigit = s.dropWhile Char.isDigit ++ rest := by
  induction s with
  | nil =>
    cases rest with
    | nil => exact ⟨rfl, rfl⟩
    | cons c rest => simp [(hrest c rfl).1]
  | cons c s ih => cases hc : c.isDigit <;> simp [hc, ih]

theorem stops_digits : Reader.Stops digits := by
  intro s left ds h rest hrest
  obtain ⟨htake, hdrop⟩ := span_isDigit_append s hrest
  rw [digits_eq_ite] at h ⊢
  rw [htake, hdrop]
  split at h
  · cases h
  · next hne =>
    cases h
    rw [if_neg hne]

theorem exists_cons_of_digits {s left ds : List Char} (h : digits s = some (ds, left)) :
    ∃ c cs, s = c :: cs ∧ c.isDigit = true := by
  cases s with
  | nil => cases h
  | cons c cs =>
    refine ⟨c, cs, rfl, ?_⟩
    rw [digits_eq_ite] at h
    by_contra hc
    rw [List.takeWhile_cons_of_neg hc, if_pos rfl] at h
    cases h

theorem stops_wholePart : Reader.Stops wholePart := by
  intro s left ds h rest hrest
  unfold wholePart at h
  split at h
  · cases h; rfl
  · next hzero =>
    obtain ⟨c, cs, rfl, -⟩ := exists_cons_of_digits h
    rw [List.cons_append, wholePart]
    · exact stops_digits h hrest
    · exact fun _ heq => hzero cs (by rw [(List.cons.inj heq).1])

theorem stops_fractionPart : Reader.Stops fractionPart := by
  intro s left ds h rest hrest
  unfold fractionPart at h
  split at h
  · exact stops_digits h hrest
  · next hpoint =>
    cases h
    rw [fractionPart]
    intro r heq
    cases s with
    | nil => exact (hrest '.' (by rw [show rest = '.' :: r from heq]; rfl)).2.1 rfl
    | cons c cs => exact hpoint cs (by rw [(List.cons.inj heq).1])

theorem Reader.Stops.map {α β : Type} {r : Reader α} (hr : r.Stops) (g : α → β) :
    Reader.Stops fun s => (r s).map fun (x, left) => (g x, left) := by
  intro s left y h rest hrest
  obtain ⟨⟨x, _⟩, hx, heq⟩ := Option.map_eq_some_iff.1 h
  cases heq
  simp only [hr hx hrest, Option.map_some]

theorem stops_exponentDigits : Reader.Stops exponentDigits := by
  intro s left e h rest hrest
  unfold exponentDigits at h
  split at h
  · exact stops_digits.map (fun ds => -(Nat.ofDigitChars 10 ds 0 : Int)) h hrest
  · exact stops_digits.map (fun ds => (Nat.ofDigitChars 10 ds 0 : Int)) h hrest
  · next hminus hplus =>
    obtain ⟨⟨ds, r⟩, hd, -⟩ := Option.map_eq_some_iff.1 h
    obtain ⟨c, cs, rfl, -⟩ := exists_cons_of_digits hd
    rw [List.cons_append, exponentDigits]
    · exact stops_digits.map (fun ds => (Nat.ofDigitChars 10 ds 0 : Int)) h hrest
    · exact fun _ heq => hminus cs (by rw [(List.cons.inj heq).1])
    · exact fun _ heq => hplus cs (by rw [(List.cons.inj heq).1])

theorem stops_exponentPart : Reader.Stops exponentPart := by
  intro s left e h rest hrest
  cases s with
  | nil =>
    cases h
    cases rest with
    | nil => rfl
    | cons c rest =>
      obtain ⟨-, -, he, hE⟩ := hrest c rfl
      rw [List.nil_append, exponentPart, if_neg (by simp [he, hE])]
  | cons c cs =>
    rw [exponentPart] at h
    rw [List.cons_append, exponentPart]
    split at h
    · next hletter =>
      rw [if_pos hletter]
      exact stops_exponentDigits.map some h hrest
    · next hletter =>
      cases h
      rw [if_neg hletter]
      rfl

theorem stops_unsigned (negative : Bool) : Reader.Stops (unsigned negative) := by
  intro s left n h rest hrest
  simp only [unsigned, Option.bind_eq_bind, Option.bind_eq_some_iff, Prod.exists,
    Option.some.injEq, Prod.mk.injEq] at h ⊢
  obtain ⟨whole, _, hwhole, fraction, _, hfraction, exponent, _, hexponent, _, hnumber, rfl, rfl⟩ :=
    h
  exact ⟨whole, _, stops_wholePart hwhole hrest, fraction, _, stops_fractionPart hfraction hrest,
    exponent, _, stops_exponentPart hexponent hrest, _, hnumber, rfl, rfl⟩

theorem exists_cons_of_unsigned {negative : Bool} {s left : List Char} {n : Number}
    (h : unsigned negative s = some (n, left)) : ∃ c cs, s = c :: cs ∧ c.isDigit = true := by
  simp only [unsigned, Option.bind_eq_bind, Option.bind_eq_some_iff, Prod.exists] at h
  obtain ⟨whole, _, hwhole, -⟩ := h
  unfold wholePart at hwhole
  split at hwhole
  · exact ⟨'0', _, rfl, by decide⟩
  · exact exists_cons_of_digits hwhole

theorem stops_number : Reader.Stops number := by
  intro s left n h rest hrest
  unfold number at h
  split at h
  · rw [List.cons_append, number]
    exact stops_unsigned true h hrest
  · next hminus =>
    obtain ⟨c, cs, rfl, -⟩ := exists_cons_of_unsigned h
    rw [List.cons_append, number]
    · exact stops_unsigned false h hrest
    · exact fun _ heq => hminus cs (by rw [(List.cons.inj heq).1])

/-- A text that is read as a number begins like one. -/
theorem exists_cons_of_number {s left : List Char} {n : Number}
    (h : number s = some (n, left)) : ∃ c cs, s = c :: cs ∧ (c = '-' ∨ c.isDigit = true) := by
  unfold number at h
  split at h
  · exact ⟨_, _, rfl, .inl rfl⟩
  · obtain ⟨c, cs, heq, hc⟩ := exists_cons_of_unsigned h
    exact ⟨c, cs, heq, .inr hc⟩

/-- A number reads back among other text if its text alone reads as that number. -/
theorem Number.readsBack_of_number {n : Number} (h : number (numberText n) = some (n, [])) :
    n.ReadsBack where
  begins := exists_cons_of_number h
  reads _ hrest := stops_number h hrest

/-- A number is read among other text as what its text alone is read as. -/
theorem takes_value_of_number {n n' : Number} (h : number (numberText n) = some (n', []))
    (depth : Nat) : Takes (value depth) (compact (.num n)) (.num n') :=
  takes_value_num (exists_cons_of_number h) (fun _ hrest => stops_number h hrest) depth

end RowQuery.Json
