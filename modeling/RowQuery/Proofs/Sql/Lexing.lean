import Mathlib.Tactic.Common
import RowQuery.Handler.PathEq
import RowQuery.Proofs.Sql.Placeholders
/-!
The levels of a text.

A reader of SQL takes a text apart into words, signs, names in double quotes and literals in single
quotes, and matches its parentheses. What is left of it here are the parentheses, the words AND, OR
and BETWEEN, and everything else without a difference. A text reads as nested items, so each pair of
parentheses holds one level, and on a level the AND that follows a BETWEEN is no connective.
-/

namespace RowQuery.Sql

/-! ### Tokens -/

/-- What a reader sees of a text. -/
inductive Token where
  | opening
  | closing
  | and
  | or
  | between
  | other
deriving DecidableEq

/-- The token of a word, in any case. -/
def Token.ofWord (letters : List Char) : Token :=
  match letters.map Char.toUpper with
  | ['A', 'N', 'D'] => .and
  | ['O', 'R'] => .or
  | ['B', 'E', 'T', 'W', 'E', 'E', 'N'] => .between
  | _ => .other

/-- Where in a text a reader is. -/
inductive Place where
  | outside
  /-- In a word, behind some letters of it. -/
  | word (letters : List Char)
  | name
  /-- Behind a quote in a name, which ends it unless it is doubled. -/
  | nameQuote
  | literal
  /-- Behind a quote in a literal, which ends it unless it is doubled. -/
  | literalQuote

namespace Place

/-- Reads a character outside of words, names and literals. -/
def enter (c : Char) : List Token × Place :=
  if PathEq.isWordChar c then ([], .word [c])
  else if c = '"' then ([.other], .name)
  else if c = '\'' then ([.other], .literal)
  else if c = '(' then ([.opening], .outside)
  else if c = ')' then ([.closing], .outside)
  else if c = ' ' then ([], .outside)
  else ([.other], .outside)

/-- Reads a character: the tokens that it completes and the place behind it. -/
def step : Place → Char → List Token × Place
  | outside, c => enter c
  | word letters, c =>
    if PathEq.isWordChar c then ([], .word (letters ++ [c]))
    else (.ofWord letters :: (enter c).1, (enter c).2)
  | name, c => ([], if c = '"' then .nameQuote else .name)
  | nameQuote, c => if c = '"' then ([], .name) else enter c
  | literal, c => ([], if c = '\'' then .literalQuote else .literal)
  | literalQuote, c => if c = '\'' then ([], .literal) else enter c

/-- What a text completes by its end. A name or a literal without an end counts as an opening
parenthesis, so it is never matched. -/
def finish : Place → List Token
  | outside | nameQuote | literalQuote => []
  | word letters => [.ofWord letters]
  | name | literal => [.opening]

/-- The tokens of a text that is read from a place. -/
def lex (p : Place) : List Char → List Token
  | [] => p.finish
  | c :: rest => (p.step c).1 ++ lex (p.step c).2 rest

end Place

/-! ### Levels -/

/-- What stands on a level: a pair of parentheses with a level of its own, or a token. -/
inductive Nested where
  | group (level : List Nested)
  | token (t : Token)

/-- Matches the parentheses of tokens behind some items of a level, with the levels around it. -/
def nest (around : List (List Nested)) (level : List Nested) : List Token → Option (List Nested)
  | [] => if around.isEmpty then some level else none
  | .opening :: rest => nest (level :: around) [] rest
  | .closing :: rest => match around with
    | [] => none
    | outer :: around => nest around (outer ++ [.group level]) rest
  | t :: rest => nest around (level ++ [.token t]) rest

/-- How a text reads; none if its parentheses are not balanced. -/
def reading (text : String) : Option (List Nested) := nest [] [] (Place.outside.lex text.toList)

mutual

/-- The levels inside an item, at every depth. -/
def Nested.levels : Nested → List (List Nested)
  | .group level => level :: levelsInside level
  | .token _ => []

/-- The levels inside the parentheses on a level, at every depth. -/
def levelsInside : List Nested → List (List Nested)
  | [] => []
  | i :: rest => i.levels ++ levelsInside rest

end

/-- The levels of a text: the one outside of all parentheses and those inside. -/
def levels (items : List Nested) : List (List Nested) := items :: levelsInside items

/-- The connectives on a level. The AND behind a BETWEEN is none. -/
def connectives (behindBetween : Bool) : List Nested → List Token
  | [] => []
  | .token .between :: rest => connectives true rest
  | .token .and :: rest =>
    if behindBetween then connectives false rest else .and :: connectives false rest
  | .token .or :: rest => .or :: connectives behindBetween rest
  | _ :: rest => connectives behindBetween rest

/-! ### Spelling -/

/-- A text begins with a character that ends words and names. -/
def EndsWord (cs : List Char) : Prop := ∀ c ∈ cs.head?, c ∈ [' ', ')', ',', '.']

instance : (cs : List Char) → Decidable (EndsWord cs)
  | [] => isTrue fun _ h => nomatch h
  | c :: _ => decidable_of_iff (c ∈ [' ', ')', ',', '.'])
      ⟨fun h _ hd => Option.some.inj hd ▸ h, fun h => h c rfl⟩

/-- What ends a word stands in none. -/
theorem isWordChar_of_mem_ends {c : Char} (h : c ∈ [' ', ')', ',', '.']) :
    PathEq.isWordChar c = false := by
  simp only [List.mem_cons, List.not_mem_nil, or_false] at h
  rcases h with rfl | rfl | rfl | rfl <;> rfl

/-- Characters spell tokens, whatever follows them. -/
def SpellsFirmly (cs : List Char) (ts : List Token) : Prop :=
  ∀ rest, Place.outside.lex (cs ++ rest) = ts ++ Place.outside.lex rest

/-- Characters spell tokens, if what follows them ends words and names. -/
def Spells (cs : List Char) (ts : List Token) : Prop :=
  ∀ rest, EndsWord rest → Place.outside.lex (cs ++ rest) = ts ++ Place.outside.lex rest

theorem EndsWord.append {cs : List Char} (h : EndsWord cs) (hne : cs ≠ []) (ds : List Char) :
    EndsWord (cs ++ ds) := by
  cases cs with
  | nil => exact absurd rfl hne
  | cons c rest => exact h

section
variable {cs ds : List Char} {ts us : List Token}

theorem SpellsFirmly.spells (h : SpellsFirmly cs ts) : Spells cs ts := fun rest _ => h rest

theorem SpellsFirmly.append (h : SpellsFirmly cs ts) (h' : SpellsFirmly ds us) :
    SpellsFirmly (cs ++ ds) (ts ++ us) := by
  intro rest
  rw [List.append_assoc, h, h', List.append_assoc]

theorem SpellsFirmly.append_spells (h : SpellsFirmly cs ts) (h' : Spells ds us) :
    Spells (cs ++ ds) (ts ++ us) := by
  intro rest hrest
  rw [List.append_assoc, h, h' rest hrest, List.append_assoc]

theorem Spells.append (h : Spells cs ts) (h' : Spells ds us) (hends : EndsWord ds) :
    Spells (cs ++ ds) (ts ++ us) := by
  intro rest hrest
  have hds : EndsWord (ds ++ rest) := by
    cases ds with
    | nil => exact hrest
    | cons d ds => exact hends
  rw [List.append_assoc, h _ hds, h' rest hrest, List.append_assoc]

theorem Spells.append_firmly (h : Spells cs ts) (h' : SpellsFirmly ds us) (hne : ds ≠ [])
    (hends : EndsWord ds) : SpellsFirmly (cs ++ ds) (ts ++ us) := by
  intro rest
  rw [List.append_assoc, h _ (hends.append hne rest), h', List.append_assoc]

end

/-- A word goes on up to where it ends. -/
theorem lex_word {letters cs rest : List Char} (h : cs.all PathEq.isWordChar = true)
    (hrest : EndsWord rest) :
    (Place.word letters).lex (cs ++ rest)
      = .ofWord (letters ++ cs) :: Place.outside.lex rest := by
  induction cs generalizing letters with
  | nil =>
    rw [List.nil_append, List.append_nil]
    cases rest with
    | nil => rfl
    | cons c rest =>
      have hword := isWordChar_of_mem_ends (hrest c rfl)
      simp only [Place.lex, Place.step, hword, Bool.false_eq_true, if_false, List.cons_append]
  | cons c cs ih =>
    obtain ⟨hc, hcs⟩ := Bool.and_eq_true_iff.1 h
    rw [List.cons_append, Place.lex]
    simp only [Place.step, hc, if_true, List.nil_append]
    rw [ih hcs, List.append_assoc]
    rfl

/-- A word is one token. -/
theorem spells_word {cs : List Char} (hne : cs ≠ []) (h : cs.all PathEq.isWordChar = true) :
    Spells cs [.ofWord cs] := by
  intro rest hrest
  cases cs with
  | nil => exact absurd rfl hne
  | cons c cs =>
    obtain ⟨hc, hcs⟩ := Bool.and_eq_true_iff.1 h
    have hfirst : Place.outside.lex (c :: cs ++ rest) = (Place.word [c]).lex (cs ++ rest) := by
      rw [List.cons_append, Place.lex]
      simp only [Place.step, Place.enter, hc, if_true, List.nil_append]
    rw [hfirst, lex_word hcs hrest]
    rfl

theorem isWordChar_of_isDigit {c : Char} (h : c.isDigit = true) : PathEq.isWordChar c = true := by
  simp [PathEq.isWordChar, Char.isAlphanum, h]

/-- A number is no keyword. -/
theorem ofWord_of_isDigit {c : Char} (h : c.isDigit = true) (cs : List Char) :
    Token.ofWord (c :: cs) = .other := by
  have hupper : c.toUpper.isDigit = true := by
    have hlow : ¬ ('a'.val ≤ c.val ∧ c.val ≤ 'z'.val) := by
      rintro ⟨ha, -⟩
      simp only [Char.isDigit, Bool.and_eq_true, decide_eq_true_eq] at h
      exact absurd (UInt32.le_trans ha h.2) (by decide)
    have hsame : c.toUpper = c := dif_neg hlow
    rw [hsame, h]
  unfold Token.ofWord
  split
  case h_4 => rfl
  all_goals
    -- a keyword begins with a letter
    rename_i hletters
    rw [List.map_cons, List.cons.injEq] at hletters
    rw [hletters.1] at hupper
    exact absurd hupper (by decide)

/-- A placeholder is a dollar sign and a number. -/
theorem spells_placeholder (n : Nat) : Spells ('$' :: n.repr.toList) [.other, .other] := by
  have hdigits := isDigit_of_mem_repr n
  have hne : n.repr.toList ≠ [] := by
    rw [Nat.repr, String.toList_ofList]
    exact Nat.toDigits_ne_nil
  have hnumber : Spells n.repr.toList [.other] := by
    have hword := spells_word hne
      (List.all_eq_true.2 fun c hc => isWordChar_of_isDigit (hdigits c hc))
    cases hcs : n.repr.toList with
    | nil => exact absurd hcs hne
    | cons c cs =>
      rw [hcs] at hword hdigits
      rwa [ofWord_of_isDigit (hdigits c (List.mem_cons_self ..))] at hword
  have hdollar : SpellsFirmly ['$'] [.other] := fun _ => rfl
  exact hdollar.append_spells hnumber

/-- A name in quotes, whatever is in it. -/
theorem spells_quoted (name : String) : Spells (quoted name).toList [.other] := by
  intro rest hrest
  have hclose : Place.nameQuote.lex rest = Place.outside.lex rest := by
    cases rest with
    | nil => rfl
    | cons c rest =>
      have hc : c ∈ [' ', ')', ',', '.'] := hrest c rfl
      have hquote : c ≠ '"' := by rintro rfl; exact absurd hc (by decide)
      simp only [Place.lex, Place.step, hquote, if_false]
  have hinside : ∀ cs : List Char,
      Place.name.lex ((cs.flatMap fun c => if c = '"' then ['"', '"'] else [c]) ++ '"' :: rest)
        = Place.outside.lex rest := by
    intro cs
    induction cs with
    | nil => exact hclose
    | cons c cs ih =>
      by_cases hc : c = '"'
      -- the doubled quote leaves the reader in the name
      · subst hc
        exact ih
      · rw [List.flatMap_cons, if_neg hc, List.append_assoc, List.singleton_append, Place.lex]
        simp only [Place.step, hc, if_false, List.nil_append]
        exact ih
  rw [quoted, String.toList_ofList, List.append_assoc, List.cons_append, Place.lex]
  exact congrArg (.other :: ·) (hinside name.toList)

/-- A column is two names with a point between them. -/
theorem spells_column (c : Column) : Spells c.text.toList [.other, .other, .other] := by
  have hpoint : SpellsFirmly ".".toList [.other] := fun _ => rfl
  rw [Column.text, String.toList_append, String.toList_append]
  exact ((spells_quoted c.table).append_firmly hpoint (by decide) (by decide)).append_spells
    (spells_quoted c.name)

/-! ### Matching parentheses -/

/-- Tokens nest as items of one level. -/
def Nests (ts : List Token) (items : List Nested) : Prop :=
  ∀ around level rest, nest around level (ts ++ rest) = nest around (level ++ items) rest

theorem nests_nil : Nests [] [] := fun _ level _ => by rw [List.append_nil]; rfl

theorem Nests.append {ts us : List Token} {items others : List Nested} (h : Nests ts items)
    (h' : Nests us others) : Nests (ts ++ us) (items ++ others) := by
  intro around level rest
  rw [List.append_assoc, h, h', List.append_assoc]

/-- Parentheses around tokens that nest hold a level of their own. -/
theorem Nests.group {ts : List Token} {items : List Nested} (h : Nests ts items) :
    Nests (.opening :: (ts ++ [.closing])) [.group items] := by
  intro around level rest
  rw [List.cons_append, List.append_assoc, nest, h, List.nil_append]
  rfl

theorem nests_token {t : Token} (hopening : t ≠ .opening) (hclosing : t ≠ .closing) :
    Nests [t] [.token t] := by
  intro around level rest
  cases t with
  | opening => exact absurd rfl hopening
  | closing => exact absurd rfl hclosing
  | and | or | between | other => rfl

/-- A text whose tokens nest reads as the items of its level. -/
theorem reading_eq_some {text : String} {ts : List Token} {items : List Nested}
    (hspells : Spells text.toList ts) (hnests : Nests ts items) : reading text = some items := by
  have hlex := hspells [] (fun _ h => nomatch h)
  have hnest := hnests [] [] []
  rw [List.append_nil] at hlex hnest
  rw [reading, hlex, show Place.outside.lex [] = [] from rfl, List.append_nil, hnest]
  rfl

/-! ### Levels without connectives -/

mutual

/-- An item without AND, OR and BETWEEN, at every depth. -/
def Nested.IsCalm : Nested → Prop
  | .group level => AreCalm level
  | .token t => t = .other

/-- Items without AND, OR and BETWEEN, at every depth. -/
def AreCalm : List Nested → Prop
  | [] => True
  | i :: rest => i.IsCalm ∧ AreCalm rest

end

theorem AreCalm.append {items others : List Nested} (h : AreCalm items) (h' : AreCalm others) :
    AreCalm (items ++ others) := by
  induction items with
  | nil => exact h'
  | cons i rest ih => exact ⟨h.1, ih h.2⟩

theorem AreCalm.connectives_append {items : List Nested} (h : AreCalm items)
    (behindBetween : Bool) (others : List Nested) :
    connectives behindBetween (items ++ others) = connectives behindBetween others := by
  induction items with
  | nil => rfl
  | cons i rest ih =>
    cases i with
    | group level => exact ih h.2
    | token t =>
      obtain rfl : t = .other := h.1
      exact ih h.2

theorem AreCalm.connectives_eq {items : List Nested} (h : AreCalm items) (behindBetween : Bool) :
    connectives behindBetween items = [] := by
  have happend := h.connectives_append behindBetween []
  rwa [List.append_nil] at happend

theorem levelsInside_append (items others : List Nested) :
    levelsInside (items ++ others) = levelsInside items ++ levelsInside others := by
  induction items with
  | nil => rfl
  | cons i rest ih => rw [List.cons_append, levelsInside, levelsInside, ih, List.append_assoc]

mutual

theorem Nested.IsCalm.of_mem_levels : (i : Nested) → i.IsCalm → ∀ level ∈ i.levels, AreCalm level
  | .group level, h => List.forall_mem_cons.2 ⟨h, AreCalm.of_mem_levelsInside level h⟩
  | .token _, _ => List.forall_mem_nil _

theorem AreCalm.of_mem_levelsInside : (items : List Nested) → AreCalm items →
    ∀ level ∈ levelsInside items, AreCalm level
  | [], _ => List.forall_mem_nil _
  | i :: rest, h => fun level hlevel => (List.mem_append.1 hlevel).elim
      (Nested.IsCalm.of_mem_levels i h.1 level) (AreCalm.of_mem_levelsInside rest h.2 level)

end

/-- Tokens nest, without AND, OR and BETWEEN on any level. -/
def NestCalmly (ts : List Token) : Prop := ∃ items, Nests ts items ∧ AreCalm items

theorem nestCalmly_others (n : Nat) : NestCalmly (List.replicate n .other) := by
  induction n with
  | zero => exact ⟨[], nests_nil, trivial⟩
  | succ n ih =>
    obtain ⟨items, hnests, hcalm⟩ := ih
    exact ⟨.token .other :: items, (nests_token (by decide) (by decide)).append hnests, rfl, hcalm⟩

theorem NestCalmly.append {ts us : List Token} (h : NestCalmly ts) (h' : NestCalmly us) :
    NestCalmly (ts ++ us) := by
  obtain ⟨items, hnests, hcalm⟩ := h
  obtain ⟨others, hnests', hcalm'⟩ := h'
  exact ⟨items ++ others, hnests.append hnests', hcalm.append hcalm'⟩

theorem NestCalmly.group {ts : List Token} (h : NestCalmly ts) :
    NestCalmly (.opening :: (ts ++ [.closing])) := by
  obtain ⟨items, hnests, hcalm⟩ := h
  exact ⟨[.group items], hnests.group, hcalm, trivial⟩

/-- The connectives of a level are of one kind. -/
def HasOneConnective (level : List Nested) : Prop :=
  ¬ (.and ∈ connectives false level ∧ .or ∈ connectives false level)

theorem HasOneConnective.of_eq_nil {level : List Nested} (h : connectives false level = []) :
    HasOneConnective level := by
  rw [HasOneConnective, h]
  exact fun hboth => nomatch hboth.1

end RowQuery.Sql
