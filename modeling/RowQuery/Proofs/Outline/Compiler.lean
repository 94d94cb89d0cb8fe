import RowQuery.Proofs.Compiler
import RowQuery.Proofs.Filter.Agreement
import RowQuery.Proofs.Filter.Tests
import RowQuery.Proofs.Outline.Sql
/-!
Values never reach the text of a statement.

Two filters with one outline, which is to say with values of one kind in every place, compile to one
text and to bound values of one kind in every place. The operators that test for null and for truth
are set apart, since their value is a part of the text.
-/

namespace RowQuery

/-! ### Built-in operators -/

namespace Comparison

open RowQuery.Filter (Operator Value)

variable (s : Subject) (op : Operator)

theorem scalar_outline (v : Value) :
    scalar s op v.outline = (scalar s op v).map Sql.Bound.outline := by
  cases v <;> rfl

theorem scalars_outline (items : List Value) :
    scalars s op (Value.outlineItems items)
      = (scalars s op items).map (List.map Sql.Bound.outline) := by
  induction items with
  | nil => rfl
  | cons v rest ih =>
    rw [Value.outlineItems, scalars, scalars, scalar_outline, ih]
    cases scalar s op v <;> cases scalars s op rest <;> rfl

theorem members_outline (v : Value) :
    members s op v.outline = (members s op v).map (List.map Sql.Bound.outline) := by
  match v with
  | .list (w :: rest) => exact scalars_outline s op (w :: rest)
  | .list [] | .null | .bool _ | .int _ | .float _ | .str _ | .range _ _ => rfl

theorem bounds_outline (v : Value) :
    bounds s op v.outline
      = (bounds s op v).map fun b => (b.1.outline, b.2.outline) := by
  match v with
  | .range lower upper =>
    rw [Value.outline, bounds, bounds, scalar_outline, scalar_outline]
    cases scalar s op lower <;> cases scalar s op upper <;> rfl
  | .null | .bool _ | .int _ | .float _ | .str _ | .list _ => rfl

theorem scalarTest_outline (c : Sql.Comparator) (v : Value) :
    scalarTest s op c v.outline = (scalarTest s op c v).map Sql.Test.outline := by
  cases v <;> rfl

theorem patternTest_outline (c : Sql.Comparator) (v : Value) :
    patternTest s op c v.outline = (patternTest s op c v).map Sql.Test.outline := by
  cases v <;> rfl

/-- The test of an operator that binds its value has the outline of the value. -/
theorem test_outline (v : Value) (his : op ≠ .is) (hisNot : op ≠ .isNot) :
    test s op v.outline = (test s op v).map Sql.Test.outline := by
  cases op with
  | is => exact absurd rfl his
  | isNot => exact absurd rfl hisNot
  | eq | neq | gt | gte | lt | lte => exact scalarTest_outline ..
  | like | notLike | iLike | notILike => exact patternTest_outline ..
  | «in» | notIn =>
    rw [test, test, members_outline]
    cases members s _ v <;> rfl
  | between | notBetween =>
    rw [test, test, bounds_outline]
    cases bounds s _ v <;> rfl
  | custom name => rfl

end Comparison

/-! ### Handlers -/

theorem MultipleOf.outline_divisor {v : Filter.Value} {d : Sql.Param} (h : divisor v = .ok d) :
    Comparison.param? v.outline = some d.outline := by
  cases v with
  | int i | float x =>
    simp only [divisor] at h
    split at h
    · cases h
    · obtain rfl := Except.ok.inj h
      rfl
  | null | bool | str | list | range => cases h

theorem PathEq.extracted?_outline (v : Filter.Value) :
    (extracted? v.outline).map Sql.Param.outline = (extracted? v).map Sql.Param.outline := by
  cases v <;> simp only [Filter.Value.outline, extracted?, Option.map_some, Option.map_none,
    Sql.Param.outline]

/-- The tests that a built-in handler makes of values of one kind have one outline. -/
theorem Handler.IsBuiltIn.outline_test {h : Handler} (hb : h.IsBuiltIn) {column : Sql.Column}
    {v w : Filter.Value} {config : Json.Value} {t u : Sql.Test} (hvw : v.outline = w.outline)
    (ht : h.test column v config = .ok t) (hu : h.test column w config = .ok u) :
    t.outline = u.outline := by
  rcases hb with rfl | rfl | rfl
  · obtain ⟨d, hd, rfl⟩ := MultipleOf.test_eq_ok.1 ht
    obtain ⟨d', hd', rfl⟩ := MultipleOf.test_eq_ok.1 hu
    have hdd : some d.outline = some d'.outline := by
      rw [← MultipleOf.outline_divisor hd, hvw, MultipleOf.outline_divisor hd']
    simp only [Sql.Test.outline, Sql.Operand.outline, Sql.Bound.outline, List.map_cons,
      List.map_nil, Option.some.inj hdd]
  · -- whatever is looked for is bound as a text
    obtain ⟨items, -, rfl⟩ := Contains.test_eq_ok.1 ht
    obtain ⟨items', -, rfl⟩ := Contains.test_eq_ok.1 hu
    rfl
  · obtain ⟨keys, p, hkeys, hp, rfl⟩ := PathEq.test_eq_ok.1 ht
    obtain ⟨keys', q, hkeys', hq, rfl⟩ := PathEq.test_eq_ok.1 hu
    obtain rfl := Except.ok.inj (hkeys.symm.trans hkeys')
    have hextracted := PathEq.extracted?_outline v
    rw [hvw, PathEq.extracted?_outline w, hp, hq, Option.map_some, Option.map_some,
      Option.some.injEq] at hextracted
    simp only [Sql.Test.outline, Sql.Operand.outline, Sql.Bound.outline, List.map_cons,
      List.map_nil, hextracted]

/-! ### Sites -/

namespace Scoped

/-- Operators in one place, with values of one kind, have tests with one outline. -/
theorem Site.outline_test {registry : Registry} (hr : registry.HoldsBuiltIn) {s s' : Site}
    {t t' : Sql.Test} (hs : s.outline = s'.outline)
    (hidentity : s.IsIdentity registry → s.value = s'.value)
    (ht : s.test registry = .ok t) (ht' : s'.test registry = .ok t') :
    t.outline = t'.outline := by
  obtain ⟨entity, aliasName, field, operator, v⟩ := s
  obtain ⟨entity', aliasName', field', operator', w⟩ := s'
  simp only [outline, mk.injEq] at hs
  obtain ⟨rfl, rfl, rfl, rfl, hvw⟩ := hs
  by_cases hid : IsIdentity registry ⟨entity, aliasName, field, operator, v⟩
  · obtain rfl : v = w := hidentity hid
    rw [Except.ok.inj (ht.symm.trans ht')]
  rw [Site.test_eq_ok] at ht ht'
  dsimp only at ht ht'
  cases hlookup : registry.lookup? operator (entity.columnType? field)
      (some (entity.name, field)) with
  | some r =>
    simp only [hlookup, Option.some.injEq, exists_eq_left', reduceCtorEq, false_and,
      or_false] at ht ht'
    exact (hr.of_lookup? hlookup).outline_test hvw ht ht'
  | none =>
    simp only [hlookup, reduceCtorEq, false_and, exists_false, true_and, false_or] at ht ht'
    have hne : Filter.Operator.ofName operator ≠ .is ∧
        Filter.Operator.ofName operator ≠ .isNot := by
      simpa only [IsIdentity, registration?, hlookup, true_and, not_or] using hid
    have htest := Comparison.test_outline ⟨⟨aliasName, field⟩, entity.columnType? field⟩
      (.ofName operator) v hne.1 hne.2
    have htest' := Comparison.test_outline ⟨⟨aliasName, field⟩, entity.columnType? field⟩
      (.ofName operator) w hne.1 hne.2
    rw [ht] at htest
    rw [ht', ← hvw, htest] at htest'
    exact Except.ok.inj htest'

/-- Items at one place of lists with one image have one image. -/
theorem eq_of_mem_zip {α β : Type} {h : α → β} : {l l' : List α} → l.map h = l'.map h →
    ∀ p ∈ l.zip l', h p.1 = h p.2
  | [], _, _ => by simp
  | _ :: _, [], heq => by simp at heq
  | a :: rest, b :: rest', heq => by
    simp only [List.map_cons, List.cons.injEq] at heq
    rw [List.zip_cons_cons, List.forall_mem_cons]
    exact ⟨heq.1, eq_of_mem_zip heq.2⟩

/-- Filters of one outline have conditions of one outline, if the values of their tests for null
and truth are equal. -/
theorem condition_outline {registry : Registry} (hr : registry.HoldsBuiltIn) {f g : Scoped}
    {aliasName : String} {c d : Option Sql.Condition} (ho : f.outline = g.outline)
    (hidentity : ∀ p ∈ (f.sites aliasName).zip (g.sites aliasName),
      p.1.IsIdentity registry → p.1.value = p.2.value)
    (hc : f.condition registry aliasName = .ok c) (hd : g.condition registry aliasName = .ok d) :
    c.map Sql.Condition.outline = d.map Sql.Condition.outline := by
  have htree : ∀ {f : Scoped} {c : Option Sql.Condition}, f.condition registry aliasName = .ok c →
      f.tree (fun s => (s.test registry).map Sql.Test.outline) aliasName
        = .ok (c.map Sql.Condition.outline) := by
    intro f c hc
    rw [condition] at hc
    rw [tree_map, hc]
    rfl
  refine tree_eq_tree f g ho (fun p hp x y hx hy => ?_) (htree hc) (htree hd)
  have hsites : p.1.outline = p.2.outline :=
    eq_of_mem_zip (by rw [← sites_outline, ho, sites_outline]) p hp
  obtain ⟨t, ht, rfl⟩ := map_eq_ok.1 hx
  obtain ⟨u, hu, rfl⟩ := map_eq_ok.1 hy
  exact Site.outline_test hr hsites (hidentity p hp) ht hu

end Scoped

/-! ### Statements -/

namespace Compiler

variable {c : Compiler} {f g : Filter}

/-- The operators of two filters on an entity that test for null and truth have equal values. -/
def SameIdentities (c : Compiler) (name : String) (f g : Filter) : Prop :=
  ∀ e ∈ c.catalog.find? name,
    ∀ p ∈ ((f.scope c.catalog e).sites e.tableAlias).zip ((g.scope c.catalog e).sites e.tableAlias),
      p.1.IsIdentity c.registry → p.1.value = p.2.value

theorem rows_sameOutline {e : Entity} {r s : Sql.Rows} (hr : c.registry.HoldsBuiltIn)
    (hf : f.InRange) (hg : g.InRange) (ho : f.outline = g.outline)
    (hidentity : ∀ p ∈ ((f.scope c.catalog e).sites e.tableAlias).zip
      ((g.scope c.catalog e).sites e.tableAlias),
      p.1.IsIdentity c.registry → p.1.value = p.2.value)
    (hrows : c.rows e f = .ok r) (hrows' : c.rows e g = .ok s) : r.SameOutline s := by
  obtain ⟨condition, hcondition, rfl⟩ := rows_eq_ok.1 hrows
  obtain ⟨condition', hcondition', rfl⟩ := rows_eq_ok.1 hrows'
  have hscope : (f.scope c.catalog e).outline = (g.scope c.catalog e).outline := by
    rw [← Filter.scope_outline c.catalog e f hf, ho, Filter.scope_outline c.catalog e g hg]
  exact ⟨rfl, rfl, Scoped.joins_eq_of_outline hscope _,
    Scoped.condition_outline hr hscope hidentity hcondition hcondition'⟩

/-- Statements for filters with values of one kind in every place have one text, and bound values of
one kind in every place. -/
theorem sameOutline_of_outline (hr : c.registry.HoldsBuiltIn) (hf : f.InRange) (hg : g.InRange)
    (ho : f.outline = g.outline) {name : String} (hidentity : c.SameIdentities name f g) :
    (∀ sort limit offset q q', c.many name f sort limit offset = .ok q →
      c.many name g sort limit offset = .ok q' →
      q.statement.prepared.SameOutline q'.statement.prepared) ∧
    (∀ q q', c.count name f = .ok q → c.count name g = .ok q' →
      q.statement.prepared.SameOutline q'.statement.prepared) ∧
    ∀ spec q q', c.aggregate name f spec = .ok q → c.aggregate name g spec = .ok q' →
      q.statement.prepared.SameOutline q'.statement.prepared := by
  refine ⟨fun sort limit offset q q' hq hq' => ?_, fun q q' hq hq' => ?_,
    fun spec q q' hq hq' => ?_⟩
  · obtain ⟨e, rows, he, hrows, rfl⟩ := rows_of_many hq
    obtain ⟨e', rows', he', hrows', rfl⟩ := rows_of_many hq'
    obtain rfl := Option.some.inj (he.symm.trans he')
    exact Sql.RowStatement.sameOutline
      (rows_sameOutline hr hf hg ho (hidentity e he) hrows hrows') ..
  · obtain ⟨e, rows, he, hrows, rfl⟩ := rows_of_count hq
    obtain ⟨e', rows', he', hrows', rfl⟩ := rows_of_count hq'
    obtain rfl := Option.some.inj (he.symm.trans he')
    exact Sql.Summary.sameOutline
      (rows_sameOutline hr hf hg ho (hidentity e he) hrows hrows') ..
  · obtain ⟨e, rows, he, hrows, rfl⟩ := rows_of_aggregate hq
    obtain ⟨e', rows', he', hrows', rfl⟩ := rows_of_aggregate hq'
    obtain rfl := Option.some.inj (he.symm.trans he')
    exact Sql.Summary.sameOutline
      (rows_sameOutline hr hf hg ho (hidentity e he) hrows hrows') ..

/-- Two counts of multiples with one of two titles that have a sub-task that is done. -/
theorem sameOutline_of_outline_titles :
    let sub : Entity := ⟨"sub_task", "sub_tasks", none, ["id"], [⟨"done", .boolean⟩], []⟩
    let relation : Relation := ⟨"subTasks", "sub_task", some "st", .left, "id", "task_id"⟩
    let task : Entity :=
      ⟨"task", "tasks", none, ["id"], [⟨"id", .integer⟩, ⟨"title", .text⟩], [relation]⟩
    let registry :=
      Registry.empty.store (.byType .integer "isMultipleOf") ⟨MultipleOf.handler, .null⟩
    let c : Compiler := ⟨⟨[task, sub]⟩, registry, .standard⟩
    let filter (n : Int) (a b : String) := Filter.allOf
      [.onField "id" (.custom "isMultipleOf") (.int n),
        .onField "title" .in (.list [.str a, .str b]),
        .onRelation "subTasks" (.onField "done" .is (.bool true))]
    ∃ q q', c.count "task" (filter 5 "a" "b") = .ok q ∧
      c.count "task" (filter 7 "' OR 1=1 --" "\"; $9") = .ok q' ∧
      q.statement.prepared.SameOutline q'.statement.prepared := by
  intro sub relation task registry c filter
  have hr : registry.HoldsBuiltIn := Registry.empty_holdsBuiltIn.store (.inl rfl) _
  have hscope : ∀ n a b, (filter n a b).scope c.catalog task = .node task
      [.node task [] [] [("id", .column [("isMultipleOf", .int n)])],
        .node task [] [] [("title", .column [("in", .list [.str a, .str b])])],
        .node task [] [] [("subTasks", .related relation sub
          (.node sub [] [] [("done", .column [("is", .bool true)])]))]] [] [] := by
    intro n a b
    simp only [filter, Scope.scope_allOf, List.map_cons, List.map_nil,
      Scope.scope_onField (show task.relation? "id" = none from rfl),
      Scope.scope_onField (show task.relation? "title" = none from rfl),
      Scope.scope_onField (show sub.relation? "done" = none from rfl),
      Scope.scope_onRelation (show task.relation? "subTasks" = some relation from rfl)
        (show c.catalog.find? "sub_task" = some sub from rfl), Filter.Operator.name]
  have hsites : ∀ n a b, ((filter n a b).scope c.catalog task).sites "task"
      = [⟨task, "task", "id", "isMultipleOf", .int n⟩,
        ⟨task, "task", "title", "in", .list [.str a, .str b]⟩,
        ⟨sub, "st", "done", "is", .bool true⟩] := by
    intro n a b
    rw [hscope]
    rfl
  have hidentities : c.SameIdentities "task" (filter 5 "a" "b")
      (filter 7 "' OR 1=1 --" "\"; $9") := by
    intro e he
    obtain rfl : task = e := Option.some.inj he
    rw [show task.tableAlias = "task" from rfl, hsites, hsites]
    -- only the test for truth is one, and it has one value in both
    rw [List.zip_cons_cons, List.zip_cons_cons, List.zip_cons_cons, List.forall_mem_cons,
      List.forall_mem_cons, List.forall_mem_cons]
    exact ⟨fun h => absurd h.1 (Option.some_ne_none _), fun h => absurd h.2 (by decide),
      fun _ => rfl, List.forall_mem_nil _⟩
  have hrange : ∀ {n : Int}, Json.fitsInt64 n = true → ∀ a b, (filter n a b).InRange :=
    fun hn _ _ => ⟨⟨⟨trivial, trivial, List.forall_mem_singleton.2 hn, trivial⟩,
      ⟨trivial, trivial, List.forall_mem_singleton.2 ⟨trivial, trivial, trivial⟩, trivial⟩,
      ⟨trivial, trivial, ⟨trivial, trivial, List.forall_mem_singleton.2 trivial, trivial⟩,
        trivial⟩, trivial⟩, trivial, trivial⟩
  have hcount : ∀ {g : Filter}, (∃ condition,
      (g.scope c.catalog task).condition registry "task" = .ok condition) →
      ∃ q, c.count "task" g = .ok q := by
    rintro g ⟨condition, hcondition⟩
    rw [count, show c.entity "task" = .ok task from rfl, ok_bind,
      rows_eq_ok.2 ⟨condition, hcondition, rfl⟩]
    exact ⟨_, rfl⟩
  obtain ⟨q, hq⟩ : ∃ q, c.count "task" (filter 5 "a" "b") = .ok q :=
    hcount (by rw [hscope]; exact ⟨_, rfl⟩)
  obtain ⟨q', hq'⟩ : ∃ q, c.count "task" (filter 7 "' OR 1=1 --" "\"; $9") = .ok q :=
    hcount (by rw [hscope]; exact ⟨_, rfl⟩)
  exact ⟨q, q', hq, hq', (sameOutline_of_outline (f := filter 5 "a" "b")
    (g := filter 7 "' OR 1=1 --" "\"; $9") hr (hrange (by decide) ..) (hrange (by decide) ..)
    rfl hidentities).2.1 q q' hq hq'⟩

end Compiler
end RowQuery
