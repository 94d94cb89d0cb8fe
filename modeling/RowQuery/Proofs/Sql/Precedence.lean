import RowQuery.Proofs.Filter.Agreement
import RowQuery.Proofs.Sql.Spelling
/-!
Conditions that read in one way only.

The text of a condition nests as the condition does: a group is a pair of parentheses, and what an
AND or an OR joins stands beside it on one level. Tests have no connectives of their own there, so a
level has connectives of one kind, and which of AND and OR binds closer never matters. In the
condition of a filter, what is joined is in parentheses itself, but for the alternatives of one
column.
-/

namespace RowQuery

open Scoped (Leaf Site)

namespace Sql

/-! ### Conditions -/

namespace Condition

mutual

/-- The items of a condition: each group is in parentheses, and a connective stands between any two
members that it joins. -/
def items : Condition → List Nested
  | .test t => t.items
  | .group c => [.group (items c)]
  | .all cs => joinedItems .and cs
  | .any cs => joinedItems .or cs

/-- The items of conditions with a connective between any two of them. -/
def joinedItems (connective : Token) : List Condition → List Nested
  | [] => []
  | [c] => if c.needsBrackets then [.group (items c)] else items c
  | c :: d :: rest =>
    (if c.needsBrackets then [.group (items c)] else items c)
      ++ .token connective :: joinedItems connective (d :: rest)

end

/-- The items of a condition that stands beside a connective. -/
def operandItems (c : Condition) : List Nested :=
  if c.needsBrackets then [.group c.items] else c.items

end Condition

/-- Pieces read as items, whatever the number of their first value is. -/
def Piece.ReadAs (ps : List Piece) (items : List Nested) : Prop :=
  ∃ ts, Spell ps ts ∧ Nests ts items

theorem readAs_bracketed {ps : List Piece} {items : List Nested} (h : Piece.ReadAs ps items) :
    Piece.ReadAs (Condition.bracketed ps) [.group items] := by
  obtain ⟨ts, hspell, hnests⟩ := h
  have hopen : SpellsFirmly "(".toList [.opening] := fun _ => rfl
  have hclose : SpellsFirmly ")".toList [.closing] := fun _ => rfl
  exact ⟨_, (hspell.append (Piece.spell_text hclose.spells)
    (Piece.endsWord_text (by decide) (by decide))).text hopen, hnests.group⟩

theorem readAs_operand {c : Condition} (h : Piece.ReadAs c.pieces c.items) :
    Piece.ReadAs (if c.needsBrackets then Condition.bracketed c.pieces else c.pieces)
      c.operandItems := by
  unfold Condition.operandItems
  split
  · exact readAs_bracketed h
  · exact h

mutual

/-- The text of a condition nests as the condition does. -/
theorem readAs_condition : (c : Condition) → (∀ t ∈ c.leaves, t.IsCompiled) →
    Piece.ReadAs c.pieces c.items
  | .test t, h => (h t (List.mem_singleton_self t)).readsAs.spell
  | .group c, h => readAs_bracketed (readAs_condition c h)
  | .all cs, h =>
    readAs_joined (fun _ => rfl) (by decide) (by decide) (by decide) (by decide) cs h
  | .any cs, h =>
    readAs_joined (fun _ => rfl) (by decide) (by decide) (by decide) (by decide) cs h

theorem readAs_joined {word : String} {connective : Token}
    (hword : SpellsFirmly word.toList [connective]) (hends : EndsWord word.toList)
    (hne : word.toList ≠ []) (hopening : connective ≠ .opening) (hclosing : connective ≠ .closing) :
    (cs : List Condition) → (∀ t ∈ Tree.leavesAll cs, t.IsCompiled) →
    Piece.ReadAs (Condition.joined word cs) (Condition.joinedItems connective cs)
  | [], _ => ⟨_, Piece.spell_nil, nests_nil⟩
  | [c], h => readAs_operand (readAs_condition c (Tree.forall_leavesAll_cons.1 h).1)
  | c :: d :: rest, h => by
    obtain ⟨hc, hrest⟩ := Tree.forall_leavesAll_cons.1 h
    obtain ⟨ts, hspell, hnests⟩ := readAs_operand (readAs_condition c hc)
    obtain ⟨us, hspell', hnests'⟩ :=
      readAs_joined hword hends hne hopening hclosing (d :: rest) hrest
    exact ⟨_, hspell.append (hspell'.text hword) (Piece.endsWord_text hends hne),
      hnests.append ((nests_token hopening hclosing).append hnests')⟩

end

/-- What stands beside a connective has no connective on its level. -/
theorem connectives_operand {c : Condition} (h : ∀ t ∈ c.leaves, t.IsCompiled)
    (behindBetween : Bool) (others : List Nested) :
    connectives behindBetween (c.operandItems ++ others) = connectives behindBetween others := by
  unfold Condition.operandItems
  cases c with
  | test t =>
    have hreads := (h t (List.mem_singleton_self t)).readsAs
    cases halone : t.standsAlone with
    | true =>
      have hcalm := hreads.calm halone
      simp only [Condition.needsBrackets, halone, Bool.not_true, Bool.false_eq_true, if_false]
      exact hcalm.connectives_append behindBetween others
    | false =>
      -- a BETWEEN is in brackets here, where it cannot take the AND of the level
      simp only [Condition.needsBrackets, halone, Bool.not_false, if_true]
      rfl
  | group c => rfl
  | all cs => rfl
  | any cs => rfl

theorem connectives_joined {connective : Token}
    (hconnective : connective = .and ∨ connective = .or) :
    (cs : List Condition) → (∀ t ∈ Tree.leavesAll cs, t.IsCompiled) →
    ∀ x ∈ connectives false (Condition.joinedItems connective cs), x = connective
  | [], _ => List.forall_mem_nil _
  | [c], h => by
    have hoperand := connectives_operand (Tree.forall_leavesAll_cons.1 h).1 false []
    rw [List.append_nil] at hoperand
    rw [Condition.joinedItems, ← Condition.operandItems, hoperand]
    exact List.forall_mem_nil _
  | c :: d :: rest, h => by
    obtain ⟨hc, hrest⟩ := Tree.forall_leavesAll_cons.1 h
    have ih := connectives_joined hconnective (d :: rest) hrest
    rw [Condition.joinedItems, ← Condition.operandItems, connectives_operand hc]
    rcases hconnective with rfl | rfl
    · exact List.forall_mem_cons.2 ⟨rfl, ih⟩
    · exact List.forall_mem_cons.2 ⟨rfl, ih⟩

/-- The members of a condition that AND or OR joins have one connective between them. -/
theorem hasOneConnective_joined {connective : Token}
    (hconnective : connective = .and ∨ connective = .or) {cs : List Condition}
    (h : ∀ t ∈ Tree.leavesAll cs, t.IsCompiled) :
    HasOneConnective (Condition.joinedItems connective cs) := by
  rintro ⟨hand, hor⟩
  have hall := connectives_joined hconnective cs h
  exact absurd ((hall _ hand).trans (hall _ hor).symm) (by decide)

theorem levelsInside_operand {c : Condition}
    (h : ∀ level ∈ levels c.items, HasOneConnective level) :
    ∀ level ∈ levelsInside c.operandItems, HasOneConnective level := by
  unfold Condition.operandItems
  split
  · simpa only [levels, levelsInside, Nested.levels, List.append_nil] using h
  · exact fun level hlevel => h level (List.mem_cons_of_mem _ hlevel)

mutual

/-- No level of a condition has both AND and OR. -/
theorem hasOneConnective_levels : (c : Condition) → (∀ t ∈ c.leaves, t.IsCompiled) →
    ∀ level ∈ levels c.items, HasOneConnective level
  | .test t, h => by
    have hreads := (h t (List.mem_singleton_self t)).readsAs
    refine List.forall_mem_cons.2 ⟨.of_eq_nil hreads.noConnective, fun level hlevel => ?_⟩
    exact .of_eq_nil ((hreads.inside level hlevel).connectives_eq false)
  | .group c, h => by
    refine List.forall_mem_cons.2 ⟨.of_eq_nil rfl, ?_⟩
    simpa only [Condition.items, levelsInside, Nested.levels, List.append_nil, levels] using
      hasOneConnective_levels c h
  | .all cs, h => List.forall_mem_cons.2
      ⟨hasOneConnective_joined (.inl rfl) h, hasOneConnective_inside .and cs h⟩
  | .any cs, h => List.forall_mem_cons.2
      ⟨hasOneConnective_joined (.inr rfl) h, hasOneConnective_inside .or cs h⟩

theorem hasOneConnective_inside (connective : Token) : (cs : List Condition) →
    (∀ t ∈ Tree.leavesAll cs, t.IsCompiled) →
    ∀ level ∈ levelsInside (Condition.joinedItems connective cs), HasOneConnective level
  | [], _ => List.forall_mem_nil _
  | [c], h =>
    levelsInside_operand (hasOneConnective_levels c (Tree.forall_leavesAll_cons.1 h).1)
  | c :: d :: rest, h => by
    obtain ⟨hc, hrest⟩ := Tree.forall_leavesAll_cons.1 h
    have hoperand := levelsInside_operand (hasOneConnective_levels c hc)
    have hothers := hasOneConnective_inside connective (d :: rest) hrest
    rw [Condition.joinedItems, levelsInside_append, levelsInside, Nested.levels, List.nil_append]
    exact fun level hlevel => (List.mem_append.1 hlevel).elim (hoperand level) (hothers level)

end

/-! ### Conditions of filters -/

/-- Beside a connective a condition is one pair of parentheses. -/
def Condition.StandsInParentheses (c : Condition) : Prop := ∃ level, c.operandItems = [.group level]

/-- Leaves are operators of one column, which are alternatives. -/
def AreAlternatives (cs : List (Tree Leaf)) : Prop :=
  ∃ entity aliasName name, ∀ c ∈ cs, ∃ l : Leaf, c = .test l ∧
    l.site.entity = entity ∧ l.site.aliasName = aliasName ∧ l.site.field = name

namespace Tree

mutual

/-- Whatever is joined stands in parentheses, but for the alternatives of one column. -/
def Isolated : Tree Leaf → Prop
  | .test _ => True
  | .group c => Isolated c
  | .all cs => (∀ c ∈ cs, Condition.StandsInParentheses (c.map Leaf.test)) ∧ IsolatedAll cs
  | .any cs =>
    ((∀ c ∈ cs, Condition.StandsInParentheses (c.map Leaf.test)) ∨ AreAlternatives cs) ∧
      IsolatedAll cs

/-- `Isolated` for every tree. -/
def IsolatedAll : List (Tree Leaf) → Prop
  | [] => True
  | c :: rest => Isolated c ∧ IsolatedAll rest

end

theorem isolatedAll_iff {cs : List (Tree Leaf)} : IsolatedAll cs ↔ ∀ c ∈ cs, c.Isolated := by
  induction cs with
  | nil => exact ⟨fun _ => List.forall_mem_nil _, fun _ => trivial⟩
  | cons c rest ih => rw [IsolatedAll, ih, List.forall_mem_cons]

/-- A tree in brackets of its own, isolated inside. -/
def IsClause (t : Tree Leaf) : Prop := ∃ c, t = .group c ∧ c.Isolated

variable {t : Tree Leaf} {cs : List (Tree Leaf)}

theorem IsClause.standsInParentheses (h : t.IsClause) :
    Condition.StandsInParentheses (t.map Leaf.test) := by
  obtain ⟨c, rfl, -⟩ := h
  exact ⟨_, rfl⟩

theorem IsClause.isolated (h : t.IsClause) : t.Isolated := by
  obtain ⟨c, rfl, hc⟩ := h
  exact hc

theorem Isolated.isClause_bracket (h : t.Isolated) : t.bracket.IsClause := by
  cases t with
  | group c => exact ⟨c, rfl, h⟩
  | test l => exact ⟨_, rfl, h⟩
  | all cs => exact ⟨_, rfl, h⟩
  | any cs => exact ⟨_, rfl, h⟩

theorem isolated_of_all? (h : all? cs = some t) (hcs : ∀ c ∈ cs, c.IsClause) : t.Isolated := by
  match cs with
  | [] => cases h
  | [c] =>
    obtain rfl := Option.some.inj h
    exact (hcs c (List.mem_singleton_self c)).isolated
  | c :: d :: rest =>
    obtain rfl := Option.some.inj h
    exact ⟨fun c hc => (hcs c hc).standsInParentheses,
      isolatedAll_iff.2 fun c hc => (hcs c hc).isolated⟩

theorem isolated_of_any? (h : any? cs = some t) (hcs : ∀ c ∈ cs, c.IsClause) : t.Isolated := by
  match cs with
  | [] => cases h
  | [c] =>
    obtain rfl := Option.some.inj h
    exact (hcs c (List.mem_singleton_self c)).isolated
  | c :: d :: rest =>
    obtain rfl := Option.some.inj h
    exact ⟨.inl fun c hc => (hcs c hc).standsInParentheses,
      isolatedAll_iff.2 fun c hc => (hcs c hc).isolated⟩

theorem isolated_of_alternatives (h : any? cs = some t) (hcs : AreAlternatives cs) :
    t.Isolated := by
  have hleaves : ∀ c ∈ cs, c.Isolated := by
    obtain ⟨_, _, _, hcs⟩ := hcs
    intro c hc
    obtain ⟨l, rfl, -⟩ := hcs c hc
    trivial
  match cs with
  | [] => cases h
  | [c] =>
    obtain rfl := Option.some.inj h
    exact hleaves c (List.mem_singleton_self c)
  | c :: d :: rest =>
    obtain rfl := Option.some.inj h
    exact ⟨.inr hcs, isolatedAll_iff.2 hleaves⟩

end Tree
end Sql

namespace Scoped

/-! ### Clauses -/

section
variable {cs : List (Option (Sql.Tree Leaf))} {t : Sql.Tree Leaf}

theorem isClause_of_mem_present (hcs : ∀ c, some c ∈ cs → c.Isolated) :
    ∀ c ∈ present cs, c.IsClause := by
  intro c hc
  obtain ⟨o, ho, hc⟩ := List.mem_filterMap.1 hc
  obtain ⟨d, rfl, rfl⟩ := Option.map_eq_some_iff.1 hc
  exact (hcs d ho).isClause_bracket

theorem isClause_of_mem_complete {bs : List (Sql.Tree Leaf)} (h : complete cs = some bs)
    (hcs : ∀ c, some c ∈ cs → c.Isolated) : ∀ c ∈ bs, c.IsClause := by
  induction cs generalizing bs with
  | nil =>
    obtain rfl := Option.some.inj h
    exact List.forall_mem_nil _
  | cons o rest ih =>
    cases o with
    | none => cases h
    | some d =>
      obtain ⟨ds, hds, rfl⟩ := Option.map_eq_some_iff.1 h
      exact List.forall_mem_cons.2 ⟨(hcs d (List.mem_cons_self ..)).isClause_bracket,
        ih hds fun c hc => hcs c (List.mem_cons_of_mem _ hc)⟩

theorem isClause_of_allClause (h : allClause cs = some t)
    (hcs : ∀ c, some c ∈ cs → c.Isolated) : t.IsClause := by
  obtain ⟨c, hc, rfl⟩ := Option.map_eq_some_iff.1 h
  exact (Sql.Tree.isolated_of_all? hc (isClause_of_mem_present hcs)).isClause_bracket

theorem isClause_of_anyClause (h : anyClause cs = some t)
    (hcs : ∀ c, some c ∈ cs → c.Isolated) : t.IsClause := by
  obtain ⟨c, hc, rfl⟩ := Option.map_eq_some_iff.1 h
  obtain ⟨bs, hbs, hc⟩ := Option.bind_eq_some_iff.1 hc
  exact (Sql.Tree.isolated_of_any? hc (isClause_of_mem_complete hbs hcs)).isClause_bracket

end

section
variable {registry : Registry}

theorem areAlternatives_leaves {entity : Entity} {aliasName name : String} :
    {operators : List (String × Filter.Value)} → {ts : List (Sql.Tree Leaf)} →
    leaves (Leaf.ofSite registry) entity aliasName name operators = .ok ts →
    ∀ c ∈ ts, ∃ l : Leaf, c = .test l ∧ l.site.entity = entity ∧
      l.site.aliasName = aliasName ∧ l.site.field = name
  | [], _, h => by
    cases h
    exact List.forall_mem_nil _
  | (op, v) :: rest, _, h => by
    simp only [leaves, bind_eq_ok, pure_eq_ok] at h
    obtain ⟨l, hl, ts, hts, rfl⟩ := h
    obtain ⟨test, -, rfl⟩ := map_eq_ok.1 hl
    exact List.forall_mem_cons.2 ⟨⟨_, rfl, rfl, rfl, rfl⟩, areAlternatives_leaves hts⟩

mutual

/-- The tree of a filter is isolated. -/
theorem isolated_tree : (f : Scoped) → {aliasName : String} → {t : Sql.Tree Leaf} →
    f.tree (Leaf.ofSite registry) aliasName = .ok (some t) → t.Isolated
  | .node entity ands ors fields, aliasName, t, h => by
    simp only [tree, bind_eq_ok, pure_eq_ok] at h
    obtain ⟨cands, hands, cors, hors, cfields, hfields, h⟩ := h
    refine Sql.Tree.isolated_of_all? h fun c hc => ?_
    rcases List.mem_append.1 hc with hc | hc
    · rcases List.mem_append.1 hc with hc | hc
      · exact isClause_of_allClause (Option.mem_toList.1 hc) (isolated_trees ands hands)
      · exact isClause_of_anyClause (Option.mem_toList.1 hc) (isolated_trees ors hors)
    · obtain ⟨o, ho, rfl⟩ := List.mem_filterMap.1 hc
      exact isClause_fieldTrees fields hfields c ho

theorem isolated_trees : (fs : List Scoped) → {aliasName : String} →
    {cs : List (Option (Sql.Tree Leaf))} → trees (Leaf.ofSite registry) aliasName fs = .ok cs →
    ∀ c, some c ∈ cs → c.Isolated
  | [], _, _, h => by
    cases h
    exact fun c hc => nomatch hc
  | f :: rest, _, _, h => by
    simp only [trees, bind_eq_ok, pure_eq_ok] at h
    obtain ⟨d, hf, ds, hrest, rfl⟩ := h
    intro c hc
    rcases List.mem_cons.1 hc with rfl | hc
    · exact isolated_tree f hf
    · exact isolated_trees rest hrest c hc

theorem isClause_fieldTrees : (fields : List (String × ScopedEntry)) → {aliasName : String} →
    {entity : Entity} → {cs : List (Option (Sql.Tree Leaf))} →
    fieldTrees (Leaf.ofSite registry) aliasName entity fields = .ok cs →
    ∀ c, some c ∈ cs → c.IsClause
  | [], _, _, _, h => by
    cases h
    exact fun c hc => nomatch hc
  | (name, e) :: rest, _, _, _, h => by
    simp only [fieldTrees, bind_eq_ok, pure_eq_ok] at h
    obtain ⟨d, he, ds, hrest, rfl⟩ := h
    intro c hc
    rcases List.mem_cons.1 hc with rfl | hc
    · exact isClause_entryTree e he
    · exact isClause_fieldTrees rest hrest c hc

theorem isClause_entryTree : (e : ScopedEntry) → {aliasName : String} → {entity : Entity} →
    {name : String} → {t : Sql.Tree Leaf} →
    entryTree (Leaf.ofSite registry) aliasName entity name e = .ok (some t) → t.IsClause
  | .column operators, aliasName, entity, name, _, h => by
    simp only [entryTree, bind_eq_ok, pure_eq_ok] at h
    obtain ⟨ts, hts, h⟩ := h
    obtain ⟨c, hc, rfl⟩ := Option.map_eq_some_iff.1 h
    exact (Sql.Tree.isolated_of_alternatives hc
      ⟨entity, aliasName, name, areAlternatives_leaves hts⟩).isClause_bracket
  | .notRelation, _, _, _, _, h | .unknownTarget _, _, _, _, _, h
  | .noFilter _ _, _, _, _, _, h => by simp [entryTree] at h
  | .related relation _ filter, _, _, _, _, h => by
    simp only [entryTree, bind_eq_ok, pure_eq_ok] at h
    obtain ⟨o, ho, h⟩ := h
    obtain ⟨c, rfl, rfl⟩ := Option.map_eq_some_iff.1 h
    exact (isolated_tree filter ho).isClause_bracket

end
end

/-- The condition of a filter reads in one way: its parentheses are balanced, what is joined stands
in parentheses but for the alternatives of one column, and no level has both AND and OR. -/
theorem condition_reads_in_one_way {registry : Registry} (hr : registry.HoldsBuiltIn)
    (catalog : Catalog) (entity : Entity) (aliasName : String) (f : Filter) {c : Sql.Condition}
    (hc : (f.scope catalog entity).condition registry aliasName = .ok (some c)) :
    (∀ next, Sql.reading (Sql.Piece.number next c.pieces) = some c.items) ∧
    (∀ level ∈ Sql.levels c.items,
      ¬ (.and ∈ Sql.connectives false level ∧ .or ∈ Sql.connectives false level)) ∧
    ∃ t : Sql.Tree Leaf,
      (f.scope catalog entity).tree (Leaf.ofSite registry) aliasName = .ok (some t) ∧
      t.map Leaf.test = c ∧ t.Isolated := by
  rw [condition_eq_tree, map_eq_ok] at hc
  obtain ⟨o, ht, hmap⟩ := hc
  obtain ⟨t, rfl, rfl⟩ := Option.map_eq_some_iff.1 hmap
  have hcompiled : ∀ test ∈ (t.map Leaf.test).leaves, test.IsCompiled := by
    rw [Sql.Tree.leaves_map, List.forall_mem_map]
    exact fun l hl => (isCompiled_of_tree hr ht l hl).2.1
  obtain ⟨ts, hspell, hnests⟩ := Sql.readAs_condition _ hcompiled
  exact ⟨fun next => Sql.reading_eq_some (hspell next) hnests,
    Sql.hasOneConnective_levels _ hcompiled, t, ht, rfl, isolated_tree _ ht⟩

/-- A number in a range or equal to another, or a title of which two things hold. -/
theorem condition_reads_in_one_way_id_or_title :
    let e : Entity := ⟨"task", "tasks", none, ["id"], [⟨"id", .integer⟩, ⟨"title", .text⟩], []⟩
    let f := Filter.anyOf
      [.node [] [] [("id", .comparison [("between", .range (.int 1) (.int 3)), ("eq", .int 7)])],
        .allOf [.onField "title" .like (.str "a%"), .onField "title" .neq (.str "b")]]
    let text := "(((\"task\".\"id\" BETWEEN $1 AND $2) OR \"task\".\"id\" = $3) OR "
      ++ "((\"task\".\"title\" LIKE $4) AND (\"task\".\"title\" <> $5)))"
    ∃ c items, (f.scope ⟨[e]⟩ e).condition .empty "task" = .ok (some c) ∧
      Sql.Piece.number 1 c.pieces = text ∧ Sql.reading text = some items ∧
      ∀ level ∈ Sql.levels items,
        ¬ (.and ∈ Sql.connectives false level ∧ .or ∈ Sql.connectives false level) := by
  intro e f text
  have hid : e.relation? "id" = none := rfl
  have htitle : e.relation? "title" = none := rfl
  have hscope : f.scope ⟨[e]⟩ e = .node e []
      [.node e [] [] [("id", .column [("between", .range (.int 1) (.int 3)), ("eq", .int 7)])],
        .node e [.node e [] [] [("title", .column [("like", .str "a%")])],
          .node e [] [] [("title", .column [("neq", .str "b")])]] [] []] [] := by
    have hcolumn : Filter.scope ⟨[e]⟩ e (.node [] []
          [("id", .comparison [("between", .range (.int 1) (.int 3)), ("eq", .int 7)])])
        = .node e [] []
          [("id", .column [("between", .range (.int 1) (.int 3)), ("eq", .int 7)])] :=
      Scope.scope_column (x := ⟨⟨[e]⟩, .empty, e⟩) hid
    simp only [f, Scope.scope_anyOf, Scope.scope_allOf, List.map_cons, List.map_nil,
      Scope.scope_onField htitle, Filter.Operator.name, hcolumn]
  obtain ⟨c, hcondition, htext⟩ : ∃ c,
      (f.scope ⟨[e]⟩ e).condition .empty "task" = .ok (some c) ∧
      Sql.Piece.number 1 c.pieces = text := by
    rw [hscope]
    exact ⟨_, rfl, by decide⟩
  obtain ⟨hreading, hlevels, -⟩ :=
    condition_reads_in_one_way Registry.empty_holdsBuiltIn ⟨[e]⟩ e "task" f hcondition
  exact ⟨c, c.items, hcondition, htext, htext ▸ hreading 1, hlevels⟩

end Scoped
end RowQuery
