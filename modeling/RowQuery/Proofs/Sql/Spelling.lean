import RowQuery.Proofs.Filter.Tests
import RowQuery.Proofs.Sql.Lexing
/-!
How tests read.

The pieces of a test spell the same tokens whatever the numbers of its values are. A reader sees
columns, signs, placeholders and casts, and the path of a handler stands in a literal, so there is
no connective on any level of a test. The AND of a BETWEEN is none, and a test that needs no
brackets has no BETWEEN.
-/

namespace RowQuery.Sql

/-! ### Pieces -/

/-- Pieces spell tokens, whatever the number of their first value is. -/
def Piece.Spell (ps : List Piece) (ts : List Token) : Prop :=
  ∀ next, Spells (number next ps).toList ts

namespace Piece

variable {ps qs : List Piece} {ts us : List Token} {s : String}

theorem spell_nil : Spell [] [] := fun _ _ _ => rfl

theorem spell_bind (v : Param) : Spell [.bind v] [.other, .other] := by
  intro next
  have htext : (number next [.bind v]).toList = '$' :: next.repr.toList := by
    simp [number]
  rw [htext]
  exact spells_placeholder next

theorem spell_text (h : Spells s.toList ts) : Spell [.text s] ts := by
  intro next
  simpa [number] using h

theorem Spell.text (h : SpellsFirmly s.toList ts) (hps : Spell ps us) :
    Spell (.text s :: ps) (ts ++ us) := by
  intro next
  rw [number, String.toList_append]
  exact h.append_spells (hps next)

theorem Spell.append (hps : Spell ps ts) (hqs : Spell qs us)
    (hends : ∀ next, EndsWord (number next qs).toList) : Spell (ps ++ qs) (ts ++ us) := by
  intro next
  rw [number_append, String.toList_append]
  exact (hps next).append (hqs _) (hends _)

/-- Pieces end words if their first text does. -/
theorem endsWord_text (h : EndsWord s.toList) (hne : s.toList ≠ []) (next : Nat) :
    EndsWord (number next (.text s :: ps)).toList := by
  rw [number, String.toList_append]
  exact h.append hne _

end Piece

/-! ### Tests -/

theorem SpellsFirmly.behind_column (c : Column) {s : String} {ts : List Token}
    (h : SpellsFirmly (" " ++ s).toList ts) :
    SpellsFirmly (c.text ++ (" " ++ s)).toList (List.replicate 3 .other ++ ts) := by
  have hblank : (" " ++ s).toList = ' ' :: s.toList := String.toList_append
  rw [String.toList_append]
  rw [hblank] at h ⊢
  exact (spells_column c).append_firmly h (List.cons_ne_nil _ _)
    fun d hd => Option.some.inj hd ▸ by decide

theorem Spells.behind_column (c : Column) {s : String} {ts : List Token}
    (h : Spells s.toList ts) (hends : EndsWord s.toList) :
    Spells (c.text ++ s).toList (List.replicate 3 .other ++ ts) := by
  rw [String.toList_append]
  exact (spells_column c).append h hends

/-- Pieces in which a reader sees neither AND nor OR nor BETWEEN. -/
def Piece.ReadCalmly (ps : List Piece) : Prop := ∃ ts, Spell ps ts ∧ NestCalmly ts

theorem readCalmly_bound {b : Bound} (h : b.HasKnownCast) : Piece.ReadCalmly b.pieces := by
  obtain ⟨v, cast⟩ := b
  cases cast with
  | none => exact ⟨_, Piece.spell_bind v, nestCalmly_others 2⟩
  | some type =>
    obtain ⟨column, hcolumn⟩ := h type rfl
    have hopen : SpellsFirmly "CAST(".toList [.other, .opening] := fun _ => rfl
    have hclose : Spells (" AS " ++ type ++ ")").toList [.other, .other, .closing] ∧
        EndsWord (" AS " ++ type ++ ")").toList ∧ (" AS " ++ type ++ ")").toList ≠ [] := by
      cases column <;> cases hcolumn <;> exact ⟨fun _ _ => rfl, by decide, by decide⟩
    exact ⟨_, Piece.Spell.text hopen
        ((Piece.spell_bind v).append (Piece.spell_text hclose.1)
          (Piece.endsWord_text hclose.2.1 hclose.2.2)),
      (nestCalmly_others 1).append (nestCalmly_others 4).group⟩

theorem readCalmly_separated {vs : List Bound} (h : ∀ v ∈ vs, v.HasKnownCast) :
    Piece.ReadCalmly (Piece.separated ", " (vs.map Bound.pieces)) := by
  induction vs with
  | nil => exact ⟨_, Piece.spell_nil, nestCalmly_others 0⟩
  | cons v rest ih =>
    obtain ⟨hv, hrest⟩ := List.forall_mem_cons.1 h
    obtain ⟨ts, hspell, hnest⟩ := readCalmly_bound hv
    cases rest with
    | nil => exact ⟨ts, hspell, hnest⟩
    | cons w rest =>
      obtain ⟨us, hspell', hnest'⟩ := ih hrest
      have hcomma : SpellsFirmly ", ".toList [.other] := fun _ => rfl
      exact ⟨_, hspell.append (hspell'.text hcomma)
          (Piece.endsWord_text (by decide) (by decide)),
        hnest.append ((nestCalmly_others 1).append hnest')⟩

/-- A sign or keywords stand between a column and a value. -/
theorem spells_comparator (op : Comparator) :
    ∃ n, SpellsFirmly (" " ++ (op.text ++ " ")).toList (List.replicate n .other) := by
  cases op with
  | eq | gt | lt | like | ilike => exact ⟨1, fun _ => rfl⟩
  | ne | ge | le | notLike | notIlike => exact ⟨2, fun _ => rfl⟩

/-- A keyword, perhaps negated. -/
theorem SpellsFirmly.negated (negated : Bool) {s : String} {ts : List Token}
    (h : SpellsFirmly s.toList ts) :
    ∃ n, SpellsFirmly (" " ++ (negation negated ++ s)).toList (List.replicate n .other ++ ts) := by
  have hnegation : ∃ n,
      SpellsFirmly (" " ++ negation negated).toList (List.replicate n .other) := by
    cases negated with
    | true => exact ⟨1, fun _ => rfl⟩
    | false => exact ⟨0, fun _ => rfl⟩
  obtain ⟨n, hn⟩ := hnegation
  rw [← String.append_assoc, String.toList_append]
  exact ⟨n, hn.append h⟩

/-- The items of a test: it reads in one way, with no connective on any level, and a test that needs
no brackets has no BETWEEN either. -/
structure Test.ReadsAs (t : Test) (items : List Nested) : Prop where
  spell : ∃ ts, Piece.Spell t.pieces ts ∧ Nests ts items
  inside : ∀ level ∈ levelsInside items, AreCalm level
  noConnective : connectives false items = []
  calm : t.standsAlone = true → AreCalm items

theorem Piece.ReadCalmly.readsAs {t : Test} (h : ReadCalmly t.pieces) :
    ∃ items, t.ReadsAs items := by
  obtain ⟨ts, hspell, items, hnests, hcalm⟩ := h
  exact ⟨items, ⟨ts, hspell, hnests⟩, AreCalm.of_mem_levelsInside items hcalm,
    hcalm.connectives_eq false, fun _ => hcalm⟩

/-- A column with words behind it. -/
theorem readCalmly_words (c : Column) {s : String} {n : Nat}
    (h : Spells s.toList (List.replicate n .other)) (hends : EndsWord s.toList) :
    Piece.ReadCalmly [.text (c.text ++ s)] :=
  ⟨_, Piece.spell_text (h.behind_column c hends),
    (nestCalmly_others 3).append (nestCalmly_others n)⟩

theorem readCalmly_compare (op : Comparator) (c : Column) {v : Bound} (hv : v.HasKnownCast) :
    Piece.ReadCalmly (Test.compare op c v).pieces := by
  obtain ⟨ts, hspell, hnest⟩ := readCalmly_bound hv
  obtain ⟨n, hop⟩ := spells_comparator op
  rw [Test.pieces, String.append_assoc, String.append_assoc]
  exact ⟨_, hspell.text (hop.behind_column c),
    ((nestCalmly_others 3).append (nestCalmly_others n)).append hnest⟩

theorem readCalmly_inList (negated : Bool) (c : Column) {vs : List Bound}
    (hvs : ∀ v ∈ vs, v.HasKnownCast) : Piece.ReadCalmly (Test.inList negated c vs).pieces := by
  obtain ⟨ts, hspell, hnest⟩ := readCalmly_separated hvs
  have hin : SpellsFirmly "IN (".toList [.other, .opening] := fun _ => rfl
  obtain ⟨n, hopen⟩ := hin.negated negated
  have hclose : SpellsFirmly ")".toList [.closing] := fun _ => rfl
  rw [Test.pieces, String.append_assoc, String.append_assoc]
  refine ⟨_, (hspell.append (Piece.spell_text hclose.spells)
    (Piece.endsWord_text (by decide) (by decide))).text (hopen.behind_column c), ?_⟩
  rw [List.append_assoc, List.append_assoc]
  exact (nestCalmly_others 3).append ((nestCalmly_others n).append
    ((nestCalmly_others 1).append hnest.group))

/-- The AND of a BETWEEN is no connective. -/
theorem readsAs_between (negated : Bool) (c : Column) {lower upper : Bound}
    (hlower : lower.HasKnownCast) (hupper : upper.HasKnownCast) :
    ∃ items, (Test.between negated c lower upper).ReadsAs items := by
  obtain ⟨ts, hspell, items, hnests, hcalm⟩ := readCalmly_bound hlower
  obtain ⟨us, hspell', others, hnests', hcalm'⟩ := readCalmly_bound hupper
  have hbetween : SpellsFirmly "BETWEEN ".toList [.between] := fun _ => rfl
  obtain ⟨n, hopen⟩ := hbetween.negated negated
  have hand : SpellsFirmly " AND ".toList [.and] := fun _ => rfl
  obtain ⟨before, hbefore, hcalmBefore⟩ := (nestCalmly_others 3).append (nestCalmly_others n)
  refine ⟨before ++ .token .between :: (items ++ .token .and :: others), ?_, ?_, ?_,
    fun h => nomatch h⟩
  · rw [Test.pieces, String.append_assoc, String.append_assoc]
    refine ⟨_, (hspell.append (hspell'.text hand)
      (Piece.endsWord_text (by decide) (by decide))).text (hopen.behind_column c), ?_⟩
    have hnest := hbefore.append ((nests_token (t := .between) (by decide) (by decide)).append
      (hnests.append ((nests_token (t := .and) (by decide) (by decide)).append hnests')))
    simpa only [List.append_assoc, List.singleton_append] using hnest
  · intro level hlevel
    simp only [levelsInside_append, levelsInside, Nested.levels, List.nil_append,
      List.mem_append] at hlevel
    rcases hlevel with hlevel | hlevel | hlevel
    · exact AreCalm.of_mem_levelsInside _ hcalmBefore level hlevel
    · exact AreCalm.of_mem_levelsInside _ hcalm level hlevel
    · exact AreCalm.of_mem_levelsInside _ hcalm' level hlevel
  -- neither side has a connective, so the AND stands right behind the BETWEEN
  · rw [hcalmBefore.connectives_append, connectives, hcalm.connectives_append, connectives,
      if_pos rfl, hcalm'.connectives_eq]

/-- The keyword IS, perhaps negated, and a constant. -/
theorem readCalmly_is (negated : Bool) (c : Column) {constant : String}
    (hne : constant.toList ≠ []) (hword : constant.toList.all PathEq.isWordChar = true)
    (hother : Token.ofWord constant.toList = .other) :
    Piece.ReadCalmly [.text (c.text ++ " IS " ++ negation negated ++ constant)] := by
  have his : ∃ n, SpellsFirmly (" IS " ++ negation negated).toList (List.replicate n .other) := by
    cases negated with
    | true => exact ⟨2, fun _ => rfl⟩
    | false => exact ⟨1, fun _ => rfl⟩
  obtain ⟨n, his⟩ := his
  have hconstant := his.append_spells (spells_word hne hword)
  rw [hother, ← String.toList_append, ← List.replicate_succ'] at hconstant
  have hends : EndsWord (" IS " ++ negation negated ++ constant).toList := by
    simp only [String.toList_append, List.append_assoc]
    exact fun d hd => Option.some.inj hd ▸ by decide
  have hassoc : c.text ++ " IS " ++ negation negated ++ constant
      = c.text ++ (" IS " ++ negation negated ++ constant) := by
    simp only [String.append_assoc]
  rw [hassoc]
  exact readCalmly_words c hconstant hends

/-- The pieces of a custom test: a fixed text, a column, a fixed text, a value and a fixed text. -/
theorem spell_custom (c : Column) (v : Param) {head middle last : String} {ts us ws : List Token}
    (hhead : SpellsFirmly head.toList ts) (hmiddle : SpellsFirmly middle.toList us)
    (hends : EndsWord middle.toList) (hne : middle.toList ≠ []) (hlast : Spells last.toList ws)
    (hends' : EndsWord last.toList) :
    Piece.Spell (Test.custom head [(.column c, middle), (.bound ⟨v, none⟩, last)]).pieces
      (ts ++ (List.replicate 3 .other ++ (us ++ ([.other, .other] ++ ws)))) := by
  have hvalue : Piece.Spell ([.bind v] ++ [.text last]) ([.other, .other] ++ ws) := by
    refine (Piece.spell_bind v).append (Piece.spell_text hlast) fun next => ?_
    simpa [Piece.number] using hends'
  have hcolumn : Piece.Spell [.text c.text] (List.replicate 3 .other) :=
    Piece.spell_text (spells_column c)
  exact (hcolumn.append (hvalue.text hmiddle) (Piece.endsWord_text hends hne)).text hhead

/-- The numbers of a test for multiples are cast, one of them in a call. -/
theorem readCalmly_multiple (c : Column) (divisor : Param) :
    Piece.ReadCalmly (Test.custom "MOD(CAST("
      [(.column c, " AS NUMERIC), CAST("),
        (.bound ⟨divisor, none⟩, " AS NUMERIC)) = 0")]).pieces := by
  have hhead : SpellsFirmly "MOD(CAST(".toList [.other, .opening, .other, .opening] := fun _ => rfl
  have hmiddle : SpellsFirmly " AS NUMERIC), CAST(".toList
      [.other, .other, .closing, .other, .other, .opening] := fun _ => rfl
  have hsign : SpellsFirmly " AS NUMERIC)) = ".toList
      [.other, .other, .closing, .closing, .other] := fun _ => rfl
  have hzero : Spells ['0'] [.other] := spells_word (by decide) (by decide)
  refine ⟨_, spell_custom c divisor hhead hmiddle (by decide) (by decide)
    (hsign.append_spells hzero) (by decide), ?_⟩
  exact (nestCalmly_others 1).append (((((nestCalmly_others 1).append
    (nestCalmly_others 5).group).append ((nestCalmly_others 2).append
      (nestCalmly_others 4).group)).group).append (nestCalmly_others 2))

theorem readCalmly_contained (c : Column) (items : Param) :
    Piece.ReadCalmly (Test.custom ""
      [(.column c, " @> CAST("), (.bound ⟨items, none⟩, " AS JSONB)")]).pieces := by
  have hhead : SpellsFirmly "".toList [] := fun _ => rfl
  have hmiddle : SpellsFirmly " @> CAST(".toList [.other, .other, .other, .opening] := fun _ => rfl
  have hlast : SpellsFirmly " AS JSONB)".toList [.other, .other, .closing] := fun _ => rfl
  exact ⟨_, spell_custom c items hhead hmiddle (by decide) (by decide) hlast.spells (by decide),
    (nestCalmly_others 6).append (nestCalmly_others 4).group⟩

/-- What holds of the characters of some texts and of a text between them. -/
theorem forall_mem_intercalate {P : Char → Prop} {separator : String} {ss : List String}
    (hseparator : ∀ c ∈ separator.toList, P c) (h : ∀ s ∈ ss, ∀ c ∈ s.toList, P c) :
    ∀ c ∈ (separator.intercalate ss).toList, P c := by
  induction ss with
  | nil =>
    rw [String.intercalate_nil]
    exact List.forall_mem_nil _
  | cons s rest ih =>
    obtain ⟨hs, hrest⟩ := List.forall_mem_cons.1 h
    cases rest with
    | nil => rwa [String.intercalate_singleton]
    | cons t rest =>
      rw [String.intercalate_cons_cons, String.toList_append, String.toList_append]
      simp only [List.mem_append, or_imp, forall_and]
      exact ⟨⟨hs, hseparator⟩, ih hrest⟩

/-- A path of plain identifiers stands in a literal, so nothing of it is read. -/
theorem readCalmly_extracted (c : Column) {keys : List String}
    (hkeys : ∀ k ∈ keys, PathEq.isSafe k = true) (value : Param) :
    Piece.ReadCalmly (Test.custom ""
      [(.column c, " #>> '\x7b" ++ ",".intercalate keys ++ "\x7d' = "),
        (.bound ⟨value, none⟩, "")]).pieces := by
  have hhead : SpellsFirmly "".toList [] := fun _ => rfl
  have hliteral : ∀ {cs : List Char}, (∀ d ∈ cs, d ≠ '\'') → ∀ rest,
      Place.literal.lex (cs ++ rest) = Place.literal.lex rest := by
    intro cs hcs rest
    induction cs with
    | nil => rfl
    | cons d cs ih =>
      obtain ⟨hd, hcs⟩ := List.forall_mem_cons.1 hcs
      rw [List.cons_append, Place.lex]
      simp only [Place.step, hd, if_false, List.nil_append]
      exact ih hcs
  have hpath : ∀ d ∈ (",".intercalate keys).toList, d ≠ '\'' := by
    refine forall_mem_intercalate ((List.forall_mem_singleton (a := ',')).2 (by decide))
      fun k hk d hd => ?_
    obtain ⟨_, _, -, -, hword⟩ := PathEq.wordChars_of_isSafe (hkeys k hk)
    rintro rfl
    exact absurd (hword _ hd) (by decide)
  -- the literal begins and ends within this text, and no key ends it in between
  have hmiddle : SpellsFirmly (" #>> '\x7b" ++ ",".intercalate keys ++ "\x7d' = ").toList
      (List.replicate 5 .other) := by
    intro rest
    have hbefore : ∀ cs, Place.outside.lex (" #>> '\x7b".toList ++ cs)
        = List.replicate 4 .other ++ Place.literal.lex cs := fun _ => rfl
    have hafter : Place.literal.lex ("\x7d' = ".toList ++ rest)
        = .other :: Place.outside.lex rest := rfl
    rw [String.toList_append, String.toList_append, List.append_assoc, List.append_assoc, hbefore,
      hliteral hpath, hafter]
    rfl
  have hends : EndsWord (" #>> '\x7b" ++ ",".intercalate keys ++ "\x7d' = ").toList ∧
      (" #>> '\x7b" ++ ",".intercalate keys ++ "\x7d' = ").toList ≠ [] := by
    rw [String.toList_append, String.toList_append, List.append_assoc]
    exact ⟨EndsWord.append (by decide) (by decide) _,
      List.append_ne_nil_of_left_ne_nil (by decide) _⟩
  have hlast : SpellsFirmly "".toList [] := fun _ => rfl
  exact ⟨_, spell_custom c value hhead hmiddle hends.1 hends.2 hlast.spells (by decide),
    nestCalmly_others 10⟩

/-- The items of a test, as its text reads. -/
def Test.items (t : Test) : List Nested := (reading (Piece.number 1 t.pieces)).getD []

/-- Every test that operators are compiled to reads in one way. -/
theorem Test.IsCompiled.readsAs {t : Test} (h : t.IsCompiled) : t.ReadsAs t.items := by
  have hreads : ∃ items, t.ReadsAs items := by
    cases h with
    | compare op c hv => exact (readCalmly_compare op c hv).readsAs
    | inList negated c hne hvs => exact (readCalmly_inList negated c hvs).readsAs
    | between negated c hlower hupper => exact readsAs_between negated c hlower hupper
    | isNull negated c =>
      exact Piece.ReadCalmly.readsAs (readCalmly_is negated c (by decide) (by decide) rfl)
    | isBool negated c b =>
      refine Piece.ReadCalmly.readsAs (readCalmly_is negated c ?_ ?_ ?_) <;> cases b <;> decide
    | multiple c divisor => exact (readCalmly_multiple c divisor).readsAs
    | contained c items => exact (readCalmly_contained c items).readsAs
    | extracted c hkeys value => exact (readCalmly_extracted c hkeys value).readsAs
  obtain ⟨items, hreads⟩ := hreads
  obtain ⟨ts, hspell, hnests⟩ := hreads.spell
  have hitems : t.items = items := by
    rw [Test.items, reading_eq_some (hspell 1) hnests]
    rfl
  rwa [hitems]

end RowQuery.Sql
