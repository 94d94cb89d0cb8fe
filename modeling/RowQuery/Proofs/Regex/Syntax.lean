import Mathlib.Tactic.Common
import RowQuery.Regex.Syntax
/-!
Escaped texts in regular expressions.

An escaped text is read back character by character, whatever follows it. A sign among the
characters has a backslash before it, and any other character stands for itself.
-/

namespace RowQuery.Regex

theorem tokens?_cons {c : Char} (h : c ≠ '\\') (rest : List Char) :
    tokens? (c :: rest) = (Token.ofChar? c).bind fun t => (tokens? rest).map (t :: ·) := by
  rw [tokens?]
  rintro d _ rfl
  exact absurd rfl h

/-- What is no sign stands for itself. -/
theorem ofChar?_of_isSign_eq_false {c : Char} (h : isSign c = false) :
    Token.ofChar? c = some (.atom (.char c)) := by
  simp only [isSign, signs, List.contains_cons, List.contains_nil, Bool.or_false,
    Bool.or_eq_false_iff, beq_eq_false_iff_ne] at h
  simp [Token.ofChar?, h]

theorem tokens?_escape_append (text rest : List Char) :
    tokens? (escape text ++ rest) = (tokens? rest).map (text.map (.atom ∘ .char) ++ ·) := by
  induction text with
  | nil => simp [escape]
  | cons c text ih =>
    have hcons : tokens? (escape (c :: text) ++ rest)
        = (tokens? (escape text ++ rest)).map (.atom (.char c) :: ·) := by
      rw [escape, List.flatMap_cons, ← escape, List.append_assoc]
      cases hsign : isSign c with
      | true => rw [if_pos rfl, List.cons_append, List.singleton_append, tokens?, if_pos hsign]
      | false =>
        have hslash : c ≠ '\\' := by
          rintro rfl
          cases hsign
        rw [if_neg Bool.false_ne_true, List.singleton_append, tokens?_cons hslash,
          ofChar?_of_isSign_eq_false hsign, Option.bind_some]
    rw [hcons, ih, Option.map_map]
    rfl

/-- What stands for one character has to be followed by something else than a star. -/
theorem nodes?_atom_cons {a : Atom} {rest : List Token} (h : rest.head? ≠ some .star) :
    nodes? (.atom a :: rest) = (nodes? rest).map (.one a :: ·) := by
  rw [nodes?]
  rintro after rfl
  exact absurd rfl h

end RowQuery.Regex
