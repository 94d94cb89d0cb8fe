import RowQuery.Proofs.Text.Pattern
/-!
Patterns read from left to right.

A text is like a pattern if it can be cut into pieces, one for each sign of the pattern. Main
statement: these are just the texts that fit the items of the pattern.
-/

namespace RowQuery.Pattern

variable {same : Char → Char → Bool} {pattern text : List Char}

/-- Pieces of a text for the signs of a pattern: any piece for `%`, one character for `_`, the same
character for one that stands for itself or is behind a backslash, and the empty piece for a
backslash at the very end. -/
inductive Cuts (same : Char → Char → Bool) : List Char → List (List Char) → Prop
  | done : Cuts same [] []
  | anyText {pattern : List Char} {pieces : List (List Char)} (piece : List Char) :
    Cuts same pattern pieces → Cuts same ('%' :: pattern) (piece :: pieces)
  | anyChar {pattern : List Char} {pieces : List (List Char)} (d : Char) :
    Cuts same pattern pieces → Cuts same ('_' :: pattern) ([d] :: pieces)
  | escaped {c d : Char} {pattern : List Char} {pieces : List (List Char)} :
    same c d = true → Cuts same pattern pieces → Cuts same ('\\' :: c :: pattern) ([d] :: pieces)
  | trailing : Cuts same ['\\'] [[]]
  | plain {c d : Char} {pattern : List Char} {pieces : List (List Char)} :
    c ≠ '%' → c ≠ '_' → c ≠ '\\' → same c d = true → Cuts same pattern pieces →
      Cuts same (c :: pattern) ([d] :: pieces)

/-- The whole of the pieces fits the items. -/
theorem Cuts.fits {pieces : List (List Char)} (h : Cuts same pattern pieces) :
    Fits same (items pattern) pieces.flatten := by
  induction h with
  | done | trailing => rfl
  | anyText piece _ ih => exact ⟨piece, _, rfl, rfl, ih⟩
  | anyChar d _ ih => exact ⟨[d], _, rfl, rfl, ih⟩
  | escaped hsame _ ih => exact ⟨[_], _, rfl, hsame, ih⟩
  | plain hany hone hslash hsame _ ih =>
    rw [items_cons hslash, if_neg hany, if_neg hone]
    exact ⟨[_], _, rfl, hsame, ih⟩

/-- A text that fits the items can be cut. -/
theorem exists_cuts_of_fits (h : Fits same (items pattern) text) :
    ∃ pieces, Cuts same pattern pieces ∧ pieces.flatten = text := by
  fun_induction items pattern generalizing text with
  | case1 => exact ⟨[], .done, h.symm⟩
  | case2 => exact ⟨[[]], .trailing, h.symm⟩
  | case3 c rest ih =>
    obtain ⟨d, behind, rfl, hsame, hbehind⟩ := fits_char.1 h
    obtain ⟨pieces, hcuts, rfl⟩ := ih hbehind
    exact ⟨[d] :: pieces, .escaped hsame hcuts, rfl⟩
  | case4 c rest hend hescaped ih =>
    have hslash := ne_backslash hend hescaped
    by_cases hany : c = '%'
    · subst hany
      obtain ⟨behind, ⟨piece, rfl⟩, hbehind⟩ := fits_anyText.1 h
      obtain ⟨pieces, hcuts, rfl⟩ := ih hbehind
      exact ⟨piece :: pieces, .anyText piece hcuts, rfl⟩
    rw [if_neg hany] at h
    by_cases hone : c = '_'
    · subst hone
      obtain ⟨d, behind, rfl, hbehind⟩ := fits_anyChar.1 h
      obtain ⟨pieces, hcuts, rfl⟩ := ih hbehind
      exact ⟨[d] :: pieces, .anyChar d hcuts, rfl⟩
    · rw [if_neg hone] at h
      obtain ⟨d, behind, rfl, hsame, hbehind⟩ := fits_char.1 h
      obtain ⟨pieces, hcuts, rfl⟩ := ih hbehind
      exact ⟨[d] :: pieces, .plain hany hone hslash hsame hcuts, rfl⟩

/-- What fits the items of a pattern is what can be cut for its signs. -/
theorem exists_cuts_iff :
    (∃ pieces, Cuts same pattern pieces ∧ pieces.flatten = text) ↔
      Fits same (items pattern) text := by
  refine ⟨?_, exists_cuts_of_fits⟩
  rintro ⟨pieces, hcuts, rfl⟩
  exact hcuts.fits

end RowQuery.Pattern
