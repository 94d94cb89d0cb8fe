import RowQuery.Proofs.Regex.Matching
import RowQuery.Proofs.Regex.Syntax
import RowQuery.Text.Pattern
/-!
What patterns accept.

A pattern is a row of items, and a text fits it if it can be cut into pieces that the items take in
turn. The regular expression of a pattern is a text, which is read again before anything is matched.
Main statements: what is read are just the nodes of the items between the two ends, whatever
characters the pattern has, and these match a text just when it fits the items.
-/

namespace RowQuery.Pattern

/-- One item of a pattern. -/
inductive Item where
  | anyText
  | anyChar
  | char (c : Char)
deriving DecidableEq, Repr

/-- The items of a pattern. -/
def items : List Char → List Item
  | [] => []
  | ['\\'] => []
  | '\\' :: c :: rest => .char c :: items rest
  | c :: rest => (if c = '%' then .anyText else if c = '_' then .anyChar else .char c) :: items rest

theorem items_cons {c : Char} (h : c ≠ '\\') (rest : List Char) : items (c :: rest)
    = (if c = '%' then .anyText else if c = '_' then .anyChar else .char c) :: items rest := by
  rw [items] <;> simp [h]

/-- What the cases for a backslash leave is no backslash. -/
theorem ne_backslash {c : Char} {rest : List Char} (hend : c = '\\' → rest = [] → False)
    (hescaped : ∀ d behind, c = '\\' → rest = d :: behind → False) : c ≠ '\\' := by
  rintro rfl
  cases rest with
  | nil => exact hend rfl rfl
  | cons d behind => exact hescaped d behind rfl rfl

/-! ### Texts that fit -/

variable {same : Char → Char → Bool}

/-- Whether an item takes a piece of text; `same` tells which characters count as equal. -/
def Item.takes (same : Char → Char → Bool) : Item → List Char → Bool
  | .anyText, _ => true
  | .anyChar, [_] => true
  | .char c, [d] => same c d
  | _, _ => false

/-- The text can be cut into pieces that the items take in turn. -/
def Fits (same : Char → Char → Bool) : List Item → List Char → Prop
  | [], text => text = []
  | item :: items, text =>
    ∃ piece rest, text = piece ++ rest ∧ item.takes same piece = true ∧ Fits same items rest

theorem fits_anyText {items : List Item} {text : List Char} :
    Fits same (.anyText :: items) text ↔ ∃ rest, rest <:+ text ∧ Fits same items rest := by
  constructor
  · rintro ⟨piece, rest, rfl, -, h⟩
    exact ⟨rest, List.suffix_append .., h⟩
  · rintro ⟨rest, ⟨piece, rfl⟩, h⟩
    exact ⟨piece, rest, rfl, rfl, h⟩

theorem fits_anyChar {items : List Item} {text : List Char} :
    Fits same (.anyChar :: items) text ↔ ∃ c rest, text = c :: rest ∧ Fits same items rest := by
  constructor
  · rintro ⟨piece, rest, rfl, hpiece, h⟩
    match piece, hpiece with
    | [c], _ => exact ⟨c, rest, rfl, h⟩
  · rintro ⟨c, rest, rfl, h⟩
    exact ⟨[c], rest, rfl, rfl, h⟩

theorem fits_char {c : Char} {items : List Item} {text : List Char} :
    Fits same (.char c :: items) text ↔
      ∃ d rest, text = d :: rest ∧ same c d = true ∧ Fits same items rest := by
  constructor
  · rintro ⟨piece, rest, rfl, hpiece, h⟩
    match piece, hpiece with
    | [d], hd => exact ⟨d, rest, rfl, hd, h⟩
  · rintro ⟨d, rest, rfl, hd, h⟩
    exact ⟨[d], rest, rfl, hd, h⟩

/-! ### The expression of a pattern -/

/-- The node for an item. -/
def Item.node : Item → Regex.Node
  | .anyText => .many .any
  | .anyChar => .one .any
  | .char c => .one (.char c)

/-- The tokens for an item. -/
def Item.tokens : Item → List Regex.Token
  | .anyText => [.atom .any, .star]
  | .anyChar => [.atom .any]
  | .char c => [.atom (.char c)]

/-- The nodes for the items of a pattern: they stand for the whole of a text. -/
def nodes (items : List Item) : List Regex.Node := .start :: (items.map Item.node ++ [.stop])

/-- Whether the expression for some items is too large. -/
def isTooLarge (anyCase : Bool) (items : List Item) : Bool :=
  Regex.isTooLarge ⟨flags anyCase, nodes items⟩

theorem tokens?_translate_append (pattern rest : List Char) :
    Regex.tokens? (translate pattern ++ rest)
      = (Regex.tokens? rest).map ((items pattern).flatMap Item.tokens ++ ·) := by
  fun_induction translate pattern with
  | case1 | case2 => exact Option.map_id'.symm
  | case3 c rest ih =>
    rw [List.append_assoc, Regex.tokens?_escape_append, ih, Option.map_map]
    rfl
  | case4 rest ih =>
    rw [List.cons_append, List.cons_append, Regex.tokens?_cons (by decide),
      Regex.tokens?_cons (by decide), ih, items_cons (by decide)]
    simp [Regex.Token.ofChar?, Item.tokens, Function.comp_def]
  | case5 rest ih =>
    rw [List.cons_append, Regex.tokens?_cons (by decide), ih, items_cons (by decide)]
    simp [Regex.Token.ofChar?, Item.tokens, Function.comp_def]
  | case6 c rest hend hescaped hany hone ih =>
    have hslash := ne_backslash hend hescaped
    rw [List.append_assoc, Regex.tokens?_escape_append, ih, Option.map_map, items_cons hslash,
      if_neg hany, if_neg hone]
    rfl

theorem nodes?_tokens (items : List Item) :
    Regex.nodes? (items.flatMap Item.tokens ++ [.stop])
      = some (items.map Item.node ++ [.stop]) := by
  induction items with
  | nil => rfl
  | cons item items ih =>
    -- A star stands only behind the token that it repeats, so none comes next.
    have hstar : (items.flatMap Item.tokens ++ [Regex.Token.stop]).head? ≠ some .star := by
      cases items with
      | nil => simp
      | cons next items => cases next <;> simp [Item.tokens]
    rw [List.flatMap_cons, List.append_assoc, List.map_cons, List.cons_append]
    cases item with
    | anyText =>
      rw [Item.tokens, List.cons_append, List.singleton_append, Regex.nodes?, ih]
      rfl
    | anyChar | char c =>
      rw [Item.tokens, List.singleton_append, Regex.nodes?_atom_cons hstar, ih]
      rfl

/-- The expression of a pattern is read as the nodes of its items. -/
theorem read?_expression (pattern : List Char) :
    Regex.read? (expression pattern) = some (nodes (items pattern)) := by
  have htokens : Regex.tokens? (expression pattern)
      = some (.start :: ((items pattern).flatMap Item.tokens ++ [.stop])) := by
    rw [expression, Regex.tokens?_cons (by decide), tokens?_translate_append]
    rfl
  rw [Regex.read?, htokens, Option.bind_some, Regex.nodes?, nodes?_tokens]
  rfl

example : Regex.read? "^1\\.5%..*$".toList = some (nodes (items "1.5\\%_%".toList)) := by decide

/-- The expression of a pattern is built unless it is too large. -/
theorem regex_eq (anyCase : Bool) (pattern : List Char) :
    regex anyCase pattern = if isTooLarge anyCase (items pattern) then .error .tooLarge
      else .ok ⟨flags anyCase, nodes (items pattern)⟩ := by
  rw [regex, Regex.build, read?_expression]
  rfl

/-! ### Matching -/

/-- Which characters count as equal. -/
theorem takes_char (anyCase : Bool) (c d : Char) : (Regex.Atom.char c).takes (flags anyCase) d
    = (if anyCase then Casing.same else fun a b => a == b) c d := by
  cases anyCase <;> rfl

/-- The node for an item takes the pieces that the item takes. -/
theorem matchesAt_node_cons {anyCase : Bool} {item : Item} {rest : List Regex.Node}
    {before text : List Char} :
    Regex.MatchesAt (flags anyCase) (item.node :: rest) before text ↔
      ∃ piece behind, text = piece ++ behind ∧
        item.takes (if anyCase then Casing.same else fun a b => a == b) piece = true ∧
        Regex.MatchesAt (flags anyCase) rest (before ++ piece) behind := by
  cases item with
  | anyText =>
    constructor
    · rintro ⟨piece, behind, rfl, -, h⟩
      exact ⟨piece, behind, rfl, rfl, h⟩
    · rintro ⟨piece, behind, rfl, -, h⟩
      exact ⟨piece, behind, rfl, fun _ _ => rfl, h⟩
  | anyChar =>
    constructor
    · rintro ⟨d, behind, rfl, -, h⟩
      exact ⟨[d], behind, rfl, rfl, h⟩
    · rintro ⟨piece, behind, rfl, hpiece, h⟩
      match piece, hpiece with
      | [d], _ => exact ⟨d, behind, rfl, rfl, h⟩
  | char c =>
    constructor
    · rintro ⟨d, behind, rfl, hd, h⟩
      exact ⟨[d], behind, rfl, (takes_char anyCase c d).symm.trans hd, h⟩
    · rintro ⟨piece, behind, rfl, hpiece, h⟩
      match piece, hpiece with
      | [d], hd => exact ⟨d, behind, rfl, (takes_char anyCase c d).trans hd, h⟩

/-- The nodes of the items match up to the end of a text just when what is left of it fits. -/
theorem matchesAt_nodes_iff {anyCase : Bool} (items : List Item) {before text : List Char} :
    Regex.MatchesAt (flags anyCase) (items.map Item.node ++ [.stop]) before text ↔
      Fits (if anyCase then Casing.same else fun a b => a == b) items text := by
  induction items generalizing before text with
  | nil => exact and_iff_left trivial
  | cons item items ih =>
    rw [List.map_cons, List.cons_append, matchesAt_node_cons, Fits]
    simp only [ih]

/-- Whether the expression for some items matches a text. -/
def accepts (anyCase : Bool) (items : List Item) (text : List Char) : Bool :=
  Regex.isMatch ⟨flags anyCase, nodes items⟩ text

/-- The expression for the items of a pattern matches the texts that fit them. -/
theorem accepts_iff {anyCase : Bool} {items : List Item} {text : List Char} :
    accepts anyCase items text = true ↔
      Fits (if anyCase then Casing.same else fun a b => a == b) items text := by
  rw [accepts, Regex.isMatch_iff]
  constructor
  · rintro ⟨before, rest, rfl, rfl, h⟩
    exact (matchesAt_nodes_iff items).1 h
  · intro h
    exact ⟨[], text, rfl, rfl, (matchesAt_nodes_iff items).2 h⟩

end RowQuery.Pattern
