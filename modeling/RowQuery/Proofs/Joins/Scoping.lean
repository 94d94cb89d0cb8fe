import RowQuery.Proofs.Filter.Tests
import RowQuery.Proofs.Joins.Routes
/-!
Aliases are known where they are used.

A statement names tables by aliases: the base table by its own and every other one by that of its
join. Joins are made in their order, so each has to lead from a table that is known by then, and no
alias may be given twice. The columns of the condition are looked up when all joins are made.
-/

namespace RowQuery

/-! ### Columns of tests -/

namespace Sql

/-- The column, if an operand is one. -/
def Operand.column? : Operand → Option Column
  | column c => some c
  | bound _ => none

/-- The columns of a test, in the order of its text. -/
def Test.columns : Test → List Column
  | compare _ c _ | inList _ c _ | between _ c _ _ | isNull _ c | isBool _ c _ => [c]
  | custom _ rest => rest.filterMap fun e => e.1.column?

end Sql

/-- A built-in operator asks for its own column only. -/
theorem Comparison.columns_of_test {s : Subject} {op : Filter.Operator} {v : Filter.Value}
    {t : Sql.Test} (h : test s op v = .ok t) : t.columns = [s.column] := by
  cases op with
  | eq | neq | gt | gte | lt | lte =>
    obtain ⟨b, -, rfl⟩ := map_eq_ok.1 (show scalarTest s _ _ v = .ok t from h)
    rfl
  | like | notLike | iLike | notILike =>
    cases v <;> cases h
    rfl
  | is | isNot => cases v <;> cases h <;> rfl
  | «in» | notIn =>
    obtain ⟨bs, -, rfl⟩ := map_eq_ok.1 (show (members s _ v).map _ = .ok t from h)
    rfl
  | between | notBetween =>
    obtain ⟨b, -, rfl⟩ := map_eq_ok.1 (show (bounds s _ v).map _ = .ok t from h)
    rfl
  | custom name => cases h

/-- A built-in handler asks for the column it is given only. -/
theorem Handler.IsBuiltIn.columns_of_test {handler : Handler} (hb : handler.IsBuiltIn)
    {column : Sql.Column} {v : Filter.Value} {config : Json.Value} {t : Sql.Test}
    (h : handler.test column v config = .ok t) : t.columns = [column] := by
  rcases hb with rfl | rfl | rfl
  · obtain ⟨d, -, rfl⟩ := MultipleOf.test_eq_ok.1 h
    rfl
  · obtain ⟨items, -, rfl⟩ := Contains.test_eq_ok.1 h
    rfl
  · obtain ⟨keys, p, -, -, rfl⟩ := PathEq.test_eq_ok.1 h
    rfl

namespace Scoped

/-- What an operator is compiled to asks for the column where the operator stands. -/
theorem Site.columns_of_test {registry : Registry} (hr : registry.HoldsBuiltIn) {s : Site}
    {t : Sql.Test} (h : s.test registry = .ok t) : t.columns = [⟨s.aliasName, s.field⟩] := by
  rcases Site.test_eq_ok.1 h with ⟨r, hlookup, h⟩ | ⟨-, h⟩
  · exact (hr.of_lookup? hlookup).columns_of_test h
  · exact Comparison.columns_of_test h

/-! ### Joins in their order -/

/-- An alias that is known once some joins are made: that of the base table or of a join. -/
def Knows (base : String) (joins : List Sql.Join) (a : String) : Prop :=
  a = base ∨ a ∈ joins.map Sql.Join.aliasName

/-- Joins that can be made one after another: each one leads from a table that is known before
it. -/
inductive Chained (base : String) : List Sql.Join → Prop
  | nil : Chained base []
  | snoc {joins : List Sql.Join} {j : Sql.Join} (h : Chained base joins)
    (howner : Knows base joins j.owner.table) : Chained base (joins ++ [j])

variable {base a : String} {joins joins' joins'' : List Sql.Join}

theorem Knows.mono (h : Knows base joins a) (hsub : joins <+: joins') : Knows base joins' a := by
  rcases h with h | h
  · exact .inl h
  · exact .inr (List.map_subset _ hsub.subset h)

/-- The joins before a place in the list make known where the join at that place leads from. -/
theorem Chained.knows_owner (h : Chained base joins) {before after : List Sql.Join} {j : Sql.Join}
    (hsplit : joins = before ++ j :: after) : Knows base before j.owner.table := by
  induction h generalizing after with
  | nil => simp at hsplit
  | snoc h howner ih =>
    rcases List.eq_nil_or_concat' after with rfl | ⟨after, last, rfl⟩
    · obtain ⟨rfl, rfl⟩ := List.append_singleton_inj.1 hsplit
      exact howner
    · rw [← List.cons_append, ← List.append_assoc] at hsplit
      exact ih (List.append_singleton_inj.1 hsplit).1

/-- Joins are added to others and stay in an order in which they can be made. -/
structure Extends (base : String) (joins joins' : List Sql.Join) : Prop where
  kept : joins <+: joins'
  chained : Chained base joins'

theorem Extends.refl (h : Chained base joins) : Extends base joins joins := ⟨List.prefix_rfl, h⟩

theorem Extends.trans (h : Extends base joins joins') (h' : Extends base joins' joins'') :
    Extends base joins joins'' := ⟨h.kept.trans h'.kept, h'.chained⟩

/-- A join from a known table extends the joins, and its alias is known then. -/
theorem extends_addJoin (h : Chained base joins) {j : Sql.Join}
    (howner : Knows base joins j.owner.table) :
    Extends base joins (addJoin joins j) ∧ Knows base (addJoin joins j) j.aliasName := by
  by_cases hj : j.aliasName ∈ joins.map Sql.Join.aliasName
  · rw [addJoin_eq_of_any hj]
    exact ⟨.refl h, .inr hj⟩
  · rw [addJoin_eq_append hj]
    exact ⟨⟨List.prefix_append _ _, h.snoc howner⟩, .inr (by simp)⟩

mutual

/-- A filter on a known table adds joins that can be made. -/
theorem extends_addJoins : (f : Scoped) → {a : String} → {joins : List Sql.Join} →
    Chained base joins → Knows base joins a → Extends base joins (f.addJoins a joins)
  | .node _ ands ors fields, a, joins, h, ha => by
    have hands := extends_addAllJoins ands h ha
    have hors := extends_addAllJoins ors hands.chained (ha.mono hands.kept)
    have hgroups := hands.trans hors
    exact hgroups.trans (extends_addFieldJoins fields hgroups.chained (ha.mono hgroups.kept))

theorem extends_addAllJoins : (fs : List Scoped) → {a : String} → {joins : List Sql.Join} →
    Chained base joins → Knows base joins a → Extends base joins (addAllJoins a joins fs)
  | [], _, _, h, _ => .refl h
  | f :: rest, a, joins, h, ha => by
    have hf := extends_addJoins f h ha
    exact hf.trans (extends_addAllJoins rest hf.chained (ha.mono hf.kept))

theorem extends_addFieldJoins : (fields : List (String × ScopedEntry)) → {a : String} →
    {joins : List Sql.Join} → Chained base joins → Knows base joins a →
    Extends base joins (addFieldJoins a joins fields)
  | [], _, _, h, _ => .refl h
  | (_, e) :: rest, a, joins, h, ha => by
    have he := extends_addEntryJoins e h ha
    exact he.trans (extends_addFieldJoins rest he.chained (ha.mono he.kept))

theorem extends_addEntryJoins : (e : ScopedEntry) → {a : String} → {joins : List Sql.Join} →
    Chained base joins → Knows base joins a → Extends base joins (addEntryJoins a joins e)
  | .column _, _, _, h, _ | .notRelation, _, _, h, _ | .unknownTarget _, _, _, h, _ => .refl h
  | .noFilter relation target, a, joins, h, ha => (extends_addJoin h ha).1
  | .related relation target filter, a, joins, h, ha => by
    -- the nested filter is on the table of the join, which is known by now
    obtain ⟨hjoin, hknows⟩ := extends_addJoin (j := joinOf a relation target) h ha
    exact hjoin.trans (extends_addJoins filter hjoin.chained hknows)

end

theorem chained_joins (f : Scoped) (base : String) : Chained base (f.joins base) :=
  (extends_addJoins f .nil (.inl rfl)).chained

/-- The table of every operator of a filter is known once its joins are made. -/
theorem knows_of_mem_sites {catalog : Catalog} {entity : Entity} {f : Scoped}
    (hf : f.Resolved catalog entity) {s : Site} (hs : s ∈ f.sites base) :
    Knows base (f.joins base) s.aliasName := by
  rcases standsOn_sites f hf s hs with ⟨halias, -⟩ | ⟨r, hr, halias, -⟩
  · exact .inl halias
  · obtain ⟨first, -, hfirst, hjoin⟩ := exists_joinUnder f base hr
    right
    rw [halias, ← hfirst, ← Route.aliasName_join]
    refine List.mem_map_of_mem ((mem_joins_iff f base).2 ?_)
    rw [Route.aliasName_join, hfirst, hjoin]

/-- What a filter is compiled to is well scoped: the joins have an alias each, every join leads from
the base table or from one that is joined before it, and every test of the condition has one column,
which is one of the base table or of a table that is joined. -/
theorem joins_and_condition_in_scope {registry : Registry} (hr : registry.HoldsBuiltIn)
    (catalog : Catalog) (entity : Entity) (base : String) (f : Filter) :
    let s := f.scope catalog entity
    ((s.joins base).map Sql.Join.aliasName).Nodup ∧
      (∀ before j after, s.joins base = before ++ j :: after →
        j.owner.table = base ∨ j.owner.table ∈ before.map Sql.Join.aliasName) ∧
      ∀ c, s.condition registry base = .ok (some c) →
        ∀ t ∈ c.leaves, ∃ column, t.columns = [column] ∧
          (column.table = base ∨ column.table ∈ (s.joins base).map Sql.Join.aliasName) := by
  intro s
  refine ⟨nodup_joins s base, fun before j after => (chained_joins s base).knows_owner, ?_⟩
  intro c hc t ht
  obtain ⟨site, hsite, htest⟩ := exists_site_of_tree s hc ht
  have hknown := knows_of_mem_sites (resolved_scope catalog entity f) hsite
  exact ⟨_, site.columns_of_test hr htest, hknown⟩

/-- The friends of friends are looked for under the alias of the friends, whose join is there once;
the pets of friends are joined to it. -/
theorem joins_and_condition_in_scope_friends :
    let friend : Relation := ⟨"friend", "person", none, .left, "friend_id", "id"⟩
    let pets : Relation := ⟨"pets", "pet", some "p", .left, "id", "owner_id"⟩
    let person : Entity := ⟨"person", "people", none, ["id"], [⟨"age", .integer⟩], [friend, pets]⟩
    let pet : Entity := ⟨"pet", "pets", none, ["id"], [⟨"name", .text⟩], []⟩
    let registry :=
      Registry.empty.store (.byType .integer "isMultipleOf") ⟨MultipleOf.handler, .null⟩
    let age := Filter.onField "age" (.custom "isMultipleOf") (.int 5)
    let name := Filter.onField "name" .in (.list [.str "a"])
    let s := (Filter.anyOf [.onRelation "friend" (.onRelation "friend" age),
      .onRelation "friend" (.onRelation "pets" name)]).scope ⟨[person, pet]⟩ person
    s.joins "t" = [⟨.left, "people", "friend", ⟨"t", "friend_id"⟩, ⟨"friend", "id"⟩⟩,
        ⟨.left, "pets", "p", ⟨"friend", "id"⟩, ⟨"p", "owner_id"⟩⟩] ∧
      ∃ c, s.condition registry "t" = .ok (some c) ∧ c.leaves.length = 2 ∧
        ∀ t ∈ c.leaves, ∃ column, t.columns = [column] ∧
          (column.table = "t" ∨ column.table ∈ ["friend", "p"]) := by
  intro friend pets person pet registry age name s
  have hs : s = .node person [] [
      .node person [] [] [("friend", .related friend person
        (.node person [] [] [("friend", .related friend person
          (.node person [] [] [("age", .column [("isMultipleOf", .int 5)])]))]))],
      .node person [] [] [("friend", .related friend person
        (.node person [] [] [("pets", .related pets pet
          (.node pet [] [] [("name", .column [("in", .list [.str "a"])])]))]))]] [] := by
    simp only [s, Scope.scope_anyOf, List.map_cons, List.map_nil]
    rw [Scope.scope_onRelation rfl rfl, Scope.scope_onRelation rfl rfl,
      Scope.scope_onRelation rfl rfl, Scope.scope_onRelation rfl rfl, Scope.scope_onField rfl,
      Scope.scope_onField rfl]
    rfl
  have hjoins : s.joins "t" = [⟨.left, "people", "friend", ⟨"t", "friend_id"⟩, ⟨"friend", "id"⟩⟩,
      ⟨.left, "pets", "p", ⟨"friend", "id"⟩, ⟨"p", "owner_id"⟩⟩] := by
    rw [hs]
    rfl
  have hcondition : ∃ c, s.condition registry "t" = .ok (some c) ∧ c.leaves.length = 2 := by
    rw [hs]
    exact ⟨_, rfl, rfl⟩
  obtain ⟨c, hc, hlength⟩ := hcondition
  have hr : registry.HoldsBuiltIn := Registry.empty_holdsBuiltIn.store (.inl rfl) _
  obtain ⟨-, -, hcolumns⟩ := joins_and_condition_in_scope hr ⟨[person, pet]⟩ person "t" _
  have hknown := hcolumns c hc
  rw [hjoins] at hknown
  exact ⟨hjoins, c, hc, hlength, hknown⟩

end Scoped
end RowQuery
