import RowQuery.Proofs.Text.Pattern
/-!
Patterns that are too large.

The size of a pattern grows with its items, so there is a length from which on a pattern of
wildcards is not matched any more, and so is a pattern of characters, of which the bytes count.
-/

namespace RowQuery.Pattern

theorem items_wildcards (n : Nat) :
    items (List.replicate n '%') = List.replicate n .anyText := by
  induction n with
  | zero => rfl
  | succ n ih => rw [List.replicate_succ, List.replicate_succ, ← ih]; rfl

theorem length_nodes (items : List Item) : (nodes items).length = items.length + 2 := by
  simp [nodes]

theorem isWide_nodes (anyCase : Bool) (items : List Item) :
    (nodes items).any (Regex.Node.isWide (flags anyCase))
      = items.any fun item => item.node.isWide (flags anyCase) := by
  simp [nodes, Regex.Node.isWide, Function.comp_def]

theorem sum_size_nodes (anyCase : Bool) (items : List Item) :
    ((nodes items).map (Regex.Node.size (flags anyCase))).sum
      = (items.map fun item => item.node.size (flags anyCase)).sum + 64 := by
  simp [nodes, Regex.Node.size, Regex.stateSize, Function.comp_def]
  omega

theorem size_wildcards (anyCase : Bool) (n : Nat) (h : n ≠ 0) :
    Regex.size ⟨flags anyCase, nodes (List.replicate n .anyText)⟩ = 1004 * n + 128 := by
  have hwide : (nodes (List.replicate n .anyText)).any (Regex.Node.isWide (flags anyCase))
      = true := by
    rw [isWide_nodes, List.any_replicate, if_neg h]; rfl
  rw [Regex.size, hwide, sum_size_nodes, List.map_replicate, List.sum_replicate_nat]
  simp only [Item.node, Regex.Node.size, Regex.Atom.size, Regex.anySize, flags, Regex.stateSize,
    if_true]
  omega

/-- Up to 10443 wildcards are matched, more are not. -/
theorem isTooLarge_wildcards (anyCase : Bool) (n : Nat) :
    isTooLarge anyCase (List.replicate n .anyText) = decide (10443 < n) := by
  rw [isTooLarge, Regex.isTooLarge, length_nodes, List.length_replicate, ← Bool.decide_and,
    decide_eq_decide]
  by_cases h : n = 0
  · subst h
    simp
  · rw [size_wildcards anyCase n h, Regex.maxSize]
    omega

theorem isTooLarge_text_wildcards (anyCase : Bool) {n : Nat} (h : 10443 < n) :
    isTooLarge anyCase (items (String.ofList (List.replicate n '%')).toList) = true := by
  rw [String.toList_ofList, items_wildcards, isTooLarge_wildcards]
  exact decide_eq_true h

/-! ### Characters -/

theorem sum_size_chars (text : List Char) :
    ((text.map Item.char).map fun item => item.node.size (flags false)).sum
      = 32 * (text.map Char.utf8Size).sum := by
  induction text with
  | nil => rfl
  | cons c rest ih =>
    rw [List.map_cons, List.map_cons, List.sum_cons, ih, List.map_cons, List.sum_cons, Nat.mul_add]
    rfl

theorem size_chars (text : List Char) :
    Regex.size ⟨flags false, nodes (text.map .char)⟩
      = 32 * (text.map Char.utf8Size).sum + 192 := by
  have hwide : (nodes (text.map .char)).any (Regex.Node.isWide (flags false)) = false := by
    rw [isWide_nodes, List.any_map, List.any_eq_false]
    exact fun c _ => by simp [Item.node, Regex.Node.isWide, Regex.Atom.isWide, flags]
  rw [Regex.size, hwide, sum_size_nodes, sum_size_chars]
  rfl

theorem sum_utf8Size_le (text : List Char) :
    (text.map Char.utf8Size).sum ≤ 4 * text.length := by
  induction text with
  | nil => exact Nat.le_refl 0
  | cons c rest ih =>
    have hc := c.utf8Size_le_four
    rw [List.map_cons, List.sum_cons, List.length_cons]
    omega

/-- Characters are matched as long as they have 327674 bytes at most. -/
theorem isTooLarge_chars (text : List Char) :
    isTooLarge false (text.map .char) = decide (327674 < (text.map Char.utf8Size).sum) := by
  have hbytes := sum_utf8Size_le text
  rw [isTooLarge, Regex.isTooLarge, length_nodes, List.length_map, size_chars, ← Bool.decide_and,
    decide_eq_decide, Regex.maxSize]
  omega

end RowQuery.Pattern
