import Mathlib.Data.List.Infix
import RowQuery.Proofs.Filter.Judgement
import RowQuery.Proofs.Text.Cuts
import RowQuery.Proofs.Text.Escape
import RowQuery.Proofs.Text.PatternSize
/-!
Texts and patterns in memory.

Main statements: the regular expression of a pattern says no more than the pattern, so as long as it
is not too large, a text is like the pattern just if it can be cut into pieces for its signs, and a
value that is no text is neither like a pattern nor unlike one; an escaped text, with any text
before or behind it or not, is found just where it stands in another one.
-/

namespace RowQuery.Comparison

open RowQuery.Filter (Operator Value)
open Pattern (Cuts items escape mask)

/-! ### Any pattern -/

theorem holdsPattern_of_text?_eq_none (field : String) (op : Operator) (anyCase negated : Bool)
    {actual : Json.Value} (h : actual.text? = none) (pattern : String) :
    holdsPattern field op anyCase negated actual (.str pattern) = .ok false := by
  rw [holdsPattern, Value.text?, h]

/-- An operator for patterns and its negation answer the opposite of each other. -/
theorem exists_holdsPattern (field : String) (op negation : Operator) {anyCase : Bool}
    {pattern : String} (text : String)
    (h : Pattern.isTooLarge anyCase (items pattern.toList) = false) :
    ∃ b, holdsPattern field op anyCase false (.str text) (.str pattern) = .ok b ∧
      holdsPattern field negation anyCase true (.str text) (.str pattern) = .ok (!b) ∧
      (b = true ↔
        ∃ pieces, Cuts (if anyCase then Casing.same else fun a b => a == b) pattern.toList pieces ∧
          pieces.flatten = text.toList) := by
  refine ⟨Pattern.accepts anyCase (items pattern.toList) text.toList, ?_, ?_,
    Pattern.accepts_iff.trans Pattern.exists_cuts_iff.symm⟩
  · rw [holdsPattern_str, h, Bool.bne_false]
    rfl
  · rw [holdsPattern_str, h, Bool.bne_true]
    rfl

/-- The regular expression of a pattern is read as the nodes of its items. A text is like the
pattern if it is made of pieces for the signs of the pattern, and not like it otherwise. A value
that is no text is neither. -/
theorem like_iff_cuts (field pattern : String) :
    Regex.read? (Pattern.expression pattern.toList) = some (Pattern.nodes (items pattern.toList)) ∧
    (∀ text, Pattern.isTooLarge false (items pattern.toList) = false →
      ∃ b, holds field .like (.str text) (.str pattern) = .ok b ∧
        holds field .notLike (.str text) (.str pattern) = .ok (!b) ∧
        (b = true ↔ ∃ pieces, Cuts (fun a b => a == b) pattern.toList pieces ∧
          pieces.flatten = text.toList)) ∧
    (∀ text, Pattern.isTooLarge true (items pattern.toList) = false →
      ∃ b, holds field .iLike (.str text) (.str pattern) = .ok b ∧
        holds field .notILike (.str text) (.str pattern) = .ok (!b) ∧
        (b = true ↔ ∃ pieces, Cuts Casing.same pattern.toList pieces ∧
          pieces.flatten = text.toList)) ∧
    ∀ op ∈ [Operator.like, .notLike, .iLike, .notILike], ∀ actual : Json.Value,
      actual.text? = none → holds field op actual (.str pattern) = .ok false := by
  refine ⟨Pattern.read?_expression pattern.toList, exists_holdsPattern field .like .notLike,
    exists_holdsPattern field .iLike .notILike, fun op hop actual h => ?_⟩
  have hnone := fun op anyCase negated =>
    holdsPattern_of_text?_eq_none field op anyCase negated h pattern
  simp only [List.mem_cons, List.not_mem_nil, or_false] at hop
  rcases hop with rfl | rfl | rfl | rfl
  · exact hnone .like false false
  · exact hnone .notLike false true
  · exact hnone .iLike true false
  · exact hnone .notILike true true

/-- Any text over a line break, one character, an escaped sign and an open end. -/
theorem like_iff_cuts_line_break :
    Pattern.isTooLarge false (items "a%_\\%\\".toList) = false ∧
      holds "title" .like (.str "a\nb%") (.str "a%_\\%\\") = .ok true ∧
      holds "title" .notLike (.str "a\nb%") (.str "a%_\\%\\") = .ok false := by
  have hsize : Pattern.isTooLarge false (items "a%_\\%\\".toList) = false := by decide +kernel
  obtain ⟨b, hlike, hnot, hcuts⟩ := (like_iff_cuts "title" "a%_\\%\\").2.1 "a\nb%" hsize
  have hb : b = true := hcuts.2 ⟨[['a'], ['\n'], ['b'], ['%'], []],
    .plain (by decide) (by decide) (by decide) rfl <| .anyText _ <| .anyChar _ <|
      .escaped rfl .trailing, rfl⟩
  rw [hlike, hnot, hb]
  exact ⟨hsize, rfl, rfl⟩

/-! ### Escaped texts -/

/-- The answer of `like` for a pattern that a text matches or not. -/
def likeAnswer (field : String) (pattern : List Char) (matched : Bool) : Except QueryError Bool :=
  if Pattern.isTooLarge false (items pattern) then
    .error (.invalidValue field Operator.like.name .patternTooLarge)
  else .ok matched

theorem isTooLarge_escape (text : List Char) : Pattern.isTooLarge false (items (escape text))
    = decide (327674 < (text.map Char.utf8Size).sum) := by
  rw [Pattern.items_escape, Pattern.isTooLarge_chars]

theorem holds_like_eq (field text : String) {pattern : List Char} {p : Prop} [Decidable p]
    (h : Pattern.Fits (fun a b => a == b) (items pattern) text.toList ↔ p) :
    holds field .like (.str text) (.str (String.ofList pattern))
      = likeAnswer field pattern (decide p) := by
  have hmatched : Pattern.accepts false (items pattern) text.toList = decide p := by
    rw [Bool.eq_iff_iff, decide_eq_true_iff, Pattern.accepts_iff]
    exact h
  rw [holds, holdsPattern_str, String.toList_ofList, hmatched, Bool.bne_false, likeAnswer]

/-- An escaped text is like that text alone; with any text behind it, before it or on both sides, it
is like the texts that begin with it, end with it or hold it. Alone it is matched as long as the
text has 327674 bytes at most. -/
theorem like_escape_iff (field v t : String) :
    escape v.toList = mask '_' (mask '%' (mask '\\' v.toList)) ∧
    holds field .like (.str t) (.str (String.ofList (escape v.toList)))
      = likeAnswer field (escape v.toList) (decide (t = v)) ∧
    holds field .like (.str t) (.str (String.ofList (escape v.toList ++ ['%'])))
      = likeAnswer field (escape v.toList ++ ['%']) (decide (v.toList <+: t.toList)) ∧
    holds field .like (.str t) (.str (String.ofList ('%' :: escape v.toList)))
      = likeAnswer field ('%' :: escape v.toList) (decide (v.toList <:+ t.toList)) ∧
    holds field .like (.str t) (.str (String.ofList ('%' :: (escape v.toList ++ ['%']))))
      = likeAnswer field ('%' :: (escape v.toList ++ ['%'])) (decide (v.toList <:+: t.toList)) ∧
    Pattern.isTooLarge false (items (escape v.toList))
      = decide (327674 < (v.toList.map Char.utf8Size).sum) := by
  refine ⟨Pattern.escape_eq_mask _, ?_, ?_, ?_, ?_, isTooLarge_escape v.toList⟩
  · exact holds_like_eq field t (Pattern.fits_escape.trans String.toList_inj)
  · exact holds_like_eq field t Pattern.fits_escape_anyText
  · exact holds_like_eq field t Pattern.fits_anyText_escape
  · exact holds_like_eq field t Pattern.fits_anyText_escape_anyText

/-- A long text is not found to be like its own escaped form. -/
theorem like_escape_eq_error :
    let v := String.ofList (List.replicate 400000 'a')
    holds "x" .like (.str v) (.str (String.ofList (escape v.toList)))
      = .error (.invalidValue "x" "like" .patternTooLarge) := by
  intro v
  have hlarge : Pattern.isTooLarge false (items (escape v.toList)) = true := by
    rw [isTooLarge_escape, String.toList_ofList, List.map_replicate, List.sum_replicate_nat]
    decide
  rw [holds_like_eq "x" v (Pattern.fits_escape.trans String.toList_inj), likeAnswer, hlarge]
  rfl

end RowQuery.Comparison
