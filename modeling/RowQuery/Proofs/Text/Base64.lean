import Mathlib.Tactic.Common
import RowQuery.Text.Base64
import RowQuery.Text.Character
/-!
Base64 reads back.

Three bytes are four six-bit numbers and the other way round; the two closing groups are the same
with the missing bytes taken as zero. No symbol is blank, so the text may stand among blanks.
-/

namespace RowQuery.Base64

theorem sextet?_symbol {n : Nat} (h : n < 64) : sextet? (symbol n) = some n := by
  revert n; decide

theorem symbol_ne_pad {n : Nat} (h : n < 64) : symbol n ≠ '=' := by
  revert n; decide

theorem isBlank_symbol {n : Nat} (h : n < 64) : isBlank (symbol n) = false := by
  revert n; decide

/-- The bytes of the six-bit numbers of three bytes. -/
theorem bytes_eq (a b c : UInt8) :
    UInt8.ofNat (a.toNat / 4 * 4 + (a.toNat % 4 * 16 + b.toNat / 16) / 16) = a ∧
      UInt8.ofNat ((a.toNat % 4 * 16 + b.toNat / 16) % 16 * 16
        + (b.toNat % 16 * 4 + c.toNat / 64) / 4) = b ∧
      UInt8.ofNat ((b.toNat % 16 * 4 + c.toNat / 64) % 4 * 64 + c.toNat % 64) = c := by
  have hb := b.toNat_lt
  have hc := c.toNat_lt
  refine ⟨?_, ?_, ?_⟩
  · rw [show a.toNat / 4 * 4 + (a.toNat % 4 * 16 + b.toNat / 16) / 16 = a.toNat by omega,
      UInt8.ofNat_toNat]
  · rw [show (a.toNat % 4 * 16 + b.toNat / 16) % 16 * 16
      + (b.toNat % 16 * 4 + c.toNat / 64) / 4 = b.toNat by omega, UInt8.ofNat_toNat]
  · rw [show (b.toNat % 16 * 4 + c.toNat / 64) % 4 * 64 + c.toNat % 64 = c.toNat by omega,
      UInt8.ofNat_toNat]

/-- What is written reads back. -/
theorem decode?_encode : ∀ bytes : List UInt8, decode? (encode bytes) = some bytes
  | [] => rfl
  | [a] => by
    have ha := a.toNat_lt
    have hbytes := (bytes_eq a 0 0).1
    simp only [UInt8.toNat_zero, Nat.zero_div, Nat.add_zero] at hbytes
    simp only [encode, decode?, closing?, sextet?_symbol (show a.toNat / 4 < 64 by omega),
      sextet?_symbol (show a.toNat % 4 * 16 < 64 by omega), List.isEmpty_nil, if_true,
      Option.bind_eq_bind, Option.bind_some, hbytes]
    rw [if_pos (by omega)]
  | [a, b] => by
    have ha := a.toNat_lt
    have hb := b.toNat_lt
    obtain ⟨hfirst, hsecond, -⟩ := bytes_eq a b 0
    simp only [UInt8.toNat_zero, Nat.zero_div, Nat.add_zero] at hfirst hsecond
    simp only [encode, decode?, closing?, sextet?_symbol (show a.toNat / 4 < 64 by omega),
      sextet?_symbol (show a.toNat % 4 * 16 + b.toNat / 16 < 64 by omega),
      sextet?_symbol (show b.toNat % 16 * 4 < 64 by omega), List.isEmpty_nil, if_true,
      Option.bind_eq_bind, Option.bind_some, hfirst, hsecond,
      symbol_ne_pad (show b.toNat % 16 * 4 < 64 by omega), if_false]
    rw [if_pos (by omega)]
  | a :: b :: c :: rest => by
    have ha := a.toNat_lt
    have hb := b.toNat_lt
    have hc := c.toNat_lt
    obtain ⟨hfirst, hsecond, hthird⟩ := bytes_eq a b c
    simp only [encode, decode?, full?, sextet?_symbol (show a.toNat / 4 < 64 by omega),
      sextet?_symbol (show a.toNat % 4 * 16 + b.toNat / 16 < 64 by omega),
      sextet?_symbol (show b.toNat % 16 * 4 + c.toNat / 64 < 64 by omega),
      sextet?_symbol (show c.toNat % 64 < 64 by omega),
      symbol_ne_pad (show c.toNat % 64 < 64 by omega), if_false, decode?_encode rest,
      Option.bind_eq_bind, Option.bind_some, hfirst, hsecond, hthird]
    rfl

theorem isBlank_of_mem_encode {c : Char} : ∀ {bytes : List UInt8}, c ∈ encode bytes →
    isBlank c = false
  | [], h => by cases h
  | [a], h => by
    have ha := a.toNat_lt
    simp only [encode, List.mem_cons, List.not_mem_nil, or_false] at h
    rcases h with rfl | rfl | rfl | rfl
    · exact isBlank_symbol (by omega)
    · exact isBlank_symbol (by omega)
    · rfl
    · rfl
  | [a, b], h => by
    have ha := a.toNat_lt
    have hb := b.toNat_lt
    simp only [encode, List.mem_cons, List.not_mem_nil, or_false] at h
    rcases h with rfl | rfl | rfl | rfl
    · exact isBlank_symbol (by omega)
    · exact isBlank_symbol (by omega)
    · exact isBlank_symbol (by omega)
    · rfl
  | a :: b :: c :: rest, h => by
    have ha := a.toNat_lt
    have hb := b.toNat_lt
    have hc := c.toNat_lt
    simp only [encode, List.mem_cons] at h
    rcases h with rfl | rfl | rfl | rfl | h
    · exact isBlank_symbol (by omega)
    · exact isBlank_symbol (by omega)
    · exact isBlank_symbol (by omega)
    · exact isBlank_symbol (by omega)
    · exact isBlank_of_mem_encode h

end RowQuery.Base64
