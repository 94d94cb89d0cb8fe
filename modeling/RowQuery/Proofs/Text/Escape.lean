import RowQuery.Proofs.Text.Pattern
/-!
Texts taken literally.

Escaping puts a backslash before every sign that a pattern would read in another way, in one pass or
in three: backslashes first, so that those which the later ones put in are not masked again. A
pattern that goes on behind an escaped text has the characters of the text as its first items.
-/

namespace RowQuery.Pattern

/-- Puts a backslash before each occurrence of a character. -/
def mask (special : Char) (text : List Char) : List Char :=
  text.flatMap fun c => if c = special then ['\\', c] else [c]

theorem mask_append (special : Char) (text rest : List Char) :
    mask special (text ++ rest) = mask special text ++ mask special rest :=
  List.flatMap_append

/-- The three signs are masked one after the other, the backslash first. -/
theorem escape_eq_mask (text : List Char) :
    escape text = mask '_' (mask '%' (mask '\\' text)) := by
  induction text with
  | nil => rfl
  | cons c rest ih =>
    have hsign : escape [c] = mask '_' (mask '%' (mask '\\' [c])) := by
      by_cases hslash : c = '\\'
      · subst hslash
        decide
      · by_cases hany : c = '%'
        · subst hany
          decide
        · by_cases hone : c = '_' <;> simp [escape, mask, hslash, hany, hone]
    calc escape (c :: rest) = escape [c] ++ escape rest := @List.flatMap_append _ _ [c] rest _
      _ = mask '_' (mask '%' (mask '\\' ([c] ++ rest))) := by
        rw [hsign, ih, mask_append, mask_append, mask_append]

/-- Whatever follows it, an escaped text is read character by character. -/
theorem items_escape_append (text rest : List Char) :
    items (escape text ++ rest) = text.map .char ++ items rest := by
  induction text with
  | nil => rfl
  | cons c text ih =>
    rw [escape, List.flatMap_cons, ← escape, List.append_assoc, List.map_cons, List.cons_append,
      ← ih]
    by_cases hspecial : c = '\\' ∨ c = '%' ∨ c = '_'
    · rw [if_pos hspecial]
      rfl
    · obtain ⟨hslash, hany, hone⟩ : c ≠ '\\' ∧ c ≠ '%' ∧ c ≠ '_' := by simpa using hspecial
      rw [if_neg hspecial, List.singleton_append, items_cons hslash, if_neg hany, if_neg hone]

theorem items_escape (text : List Char) : items (escape text) = text.map .char := by
  have h := items_escape_append text []
  rwa [List.append_nil, items, List.append_nil] at h

/-! ### What escaped texts fit -/

variable {v t : List Char}

/-- Characters take themselves, and what is behind them is left to the other items. -/
theorem fits_chars_append {rest : List Item} :
    Fits (· == ·) (v.map .char ++ rest) t ↔
      ∃ behind, t = v ++ behind ∧ Fits (· == ·) rest behind := by
  induction v generalizing t with
  | nil => simp
  | cons c v ih =>
    rw [List.map_cons, List.cons_append, fits_char]
    constructor
    · rintro ⟨d, left, rfl, hsame, hleft⟩
      obtain ⟨behind, rfl, h⟩ := ih.1 hleft
      exact ⟨behind, by rw [eq_of_beq hsame]; rfl, h⟩
    · rintro ⟨behind, rfl, h⟩
      exact ⟨c, v ++ behind, rfl, beq_self_eq_true c, ih.2 ⟨behind, rfl, h⟩⟩

theorem fits_escape : Fits (· == ·) (items (escape v)) t ↔ t = v := by
  rw [items_escape, ← List.append_nil (v.map Item.char), fits_chars_append]
  simp [Fits]

theorem fits_escape_anyText : Fits (· == ·) (items (escape v ++ ['%'])) t ↔ v <+: t := by
  rw [items_escape_append, fits_chars_append]
  constructor
  · rintro ⟨behind, rfl, -⟩
    exact List.prefix_append ..
  · rintro ⟨behind, rfl⟩
    exact ⟨behind, rfl, fits_anyText.2 ⟨[], List.nil_suffix .., rfl⟩⟩

theorem fits_anyText_escape : Fits (· == ·) (items ('%' :: escape v)) t ↔ v <:+ t := by
  rw [items_cons (by decide), if_pos rfl, fits_anyText]
  simp only [fits_escape, exists_eq_right]

theorem fits_anyText_escape_anyText :
    Fits (· == ·) (items ('%' :: (escape v ++ ['%']))) t ↔ v <:+: t := by
  rw [items_cons (by decide), if_pos rfl, fits_anyText]
  simp only [fits_escape_anyText]
  rw [List.infix_iff_prefix_suffix]
  exact exists_congr fun rest => and_comm

end RowQuery.Pattern
