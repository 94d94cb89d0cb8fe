import RowQuery.Proofs.Number.Rounding
import RowQuery.Proofs.Outcome
import RowQuery.Proofs.Registry
import RowQuery.Proofs.Text.Pattern
import RowQuery.Scoped.Condition
import RowQuery.Scoped.Truth
/-!
What compiles can be judged in memory.

The SQL condition and the judgement on a row check their values each on their own. Where a test can
be made of an operator and its value, the operator also has a verdict on every stored value: the
built-in handlers are never undecided then, and a built-in operator fails only if its pattern is too
large to be matched. So a filter that has a condition is judged on every row.
-/

namespace RowQuery

/-! ### Values and handlers of requests -/

namespace Filter.Value

mutual

/-- Every integer in a value is one of 64 signed bits. -/
def InRange : Value → Prop
  | .int i => Json.fitsInt64 i = true
  | .list items => InRangeItems items
  | .range lower upper => InRange lower ∧ InRange upper
  | .null | .bool _ | .float _ | .str _ => True

/-- `InRange` of every item. -/
def InRangeItems : List Value → Prop
  | [] => True
  | v :: rest => InRange v ∧ InRangeItems rest

end

end Filter.Value

theorem natAbs_lt_of_fitsInt64 {i : Int} (h : Json.fitsInt64 i = true) : i.natAbs < 2 ^ 64 := by
  simp only [Json.fitsInt64, Bool.and_eq_true, decide_eq_true_eq] at h
  have hmin : Json.minInt64 = -(2 ^ 63) := rfl
  have hmax : Json.maxInt64 = 2 ^ 63 - 1 := rfl
  omega

/-- A divisor that can be bound is a number. -/
theorem MultipleOf.isSome_binary64? {v : Filter.Value} {d : Sql.Param} (hv : v.InRange)
    (hd : MultipleOf.divisor v = .ok d) : ∃ y, v.binary64? = some y := by
  cases v with
  | int i =>
    refine Option.isSome_iff_exists.1 (Binary64.isSome_ofInt? (natAbs_lt_of_fitsInt64 ?_))
    simpa only [Filter.Value.InRange] using hv
  | float x => exact ⟨x, rfl⟩
  | null | bool | str | list | range => simp [MultipleOf.divisor] at hd

/-- A built-in handler that makes a test of a value has a verdict on every stored value. -/
theorem Handler.IsBuiltIn.judge_of_test {h : Handler} (hb : h.IsBuiltIn) {column : Sql.Column}
    {v : Filter.Value} {config : Json.Value} {t : Sql.Test} (hv : v.InRange)
    (ht : h.test column v config = .ok t) (actual : Json.Value) :
    ∃ b, h.judge actual v config = .holds b := by
  rcases hb with rfl | rfl | rfl
  · obtain ⟨d, hd, -⟩ := MultipleOf.test_eq_ok.1 ht
    obtain ⟨y, hy⟩ := MultipleOf.isSome_binary64? hv hd
    exact ⟨!y.isZero && MultipleOf.divides v y actual, by simp only [MultipleOf.handler, hy]⟩
  · obtain ⟨items, hitems, -⟩ := Contains.test_eq_ok.1 ht
    simp only [Contains.handler, hitems]
    split <;> exact ⟨_, rfl⟩
  · obtain ⟨keys, p, hkeys, -⟩ := PathEq.test_eq_ok.1 ht
    simp only [PathEq.handler, hkeys]
    split <;> exact ⟨_, rfl⟩

/-! ### Built-in operators -/

namespace Comparison

open RowQuery.Filter (Operator Value)

/-- The operator matches a pattern that is too large to be matched. -/
def isTooLarge (op : Operator) (v : Value) : Bool :=
  match v.text? with
  | none => false
  | some pattern => match op with
    | .like | .notLike => Pattern.isTooLarge false (Pattern.items pattern.toList)
    | .iLike | .notILike => Pattern.isTooLarge true (Pattern.items pattern.toList)
    | _ => false

theorem holdsPattern_str (field : String) (op : Operator) (anyCase negated : Bool)
    (text pattern : String) : holdsPattern field op anyCase negated (.str text) (.str pattern)
      = if Pattern.isTooLarge anyCase (Pattern.items pattern.toList) then
          .error (.invalidValue field op.name .patternTooLarge)
        else .ok (Pattern.accepts anyCase (Pattern.items pattern.toList) text.toList
          != negated) := by
  have hregex := Pattern.regex_eq anyCase pattern.toList
  cases hsize : Pattern.isTooLarge anyCase (Pattern.items pattern.toList) with
  | true | false =>
    rw [hsize] at hregex
    simp only [holdsPattern, Value.text?, Json.Value.text?, hregex]
    rfl

section
variable {s : Subject} {op op' : Operator} {v : Value} {t : Sql.Test} {c : Sql.Comparator}
  {negated : Bool} (field : String) (actual : Json.Value)

theorem isScalar_of_scalar {b : Sql.Bound} (h : scalar s op v = .ok b) : v.isScalar = true := by
  cases v <;> simp_all [scalar, param?, Value.isScalar]

theorem holdsScalar_of_test (wanted : Ordering → Bool) (h : scalarTest s op c v = .ok t) :
    ∃ b, holdsScalar field op' wanted actual v = .ok b := by
  obtain ⟨b, hb, -⟩ := map_eq_ok.1 h
  exact ⟨_, by rw [holdsScalar, if_pos (isScalar_of_scalar hb)]⟩

theorem holdsPattern_of_test (anyCase : Bool) (h : patternTest s op c v = .ok t)
    (hsize : ∀ pattern, v.text? = some pattern →
      Pattern.isTooLarge anyCase (Pattern.items pattern.toList) = false) :
    ∃ b, holdsPattern field op' anyCase negated actual v = .ok b := by
  unfold patternTest at h
  split at h
  · rename_i pattern hpattern
    simp only [holdsPattern, hpattern]
    split
    · exact ⟨_, rfl⟩
    · rw [Pattern.regex_eq, hsize pattern hpattern]; exact ⟨_, rfl⟩
  · cases h

theorem holdsIdentity_of_test (h : identityTest s op negated v = .ok t) :
    ∃ b, holdsIdentity field op' negated actual v = .ok b := by
  cases v <;> simp_all [identityTest, holdsIdentity]

theorem holdsMember_of_members {bs : List Sql.Bound} (h : members s op v = .ok bs) :
    ∃ b, holdsMember field op' negated actual v = .ok b := by
  match v with
  | .list [] | .null | .bool _ | .int _ | .float _ | .str _ | .range _ _ =>
    simp [members] at h
  | .list (_ :: _) =>
    simp only [holdsMember]
    split <;> exact ⟨_, rfl⟩

theorem holdsBetween_of_bounds {b : Sql.Bound × Sql.Bound} (h : bounds s op v = .ok b) :
    ∃ b, holdsBetween field op' negated actual v = .ok b := by
  match v with
  | .null | .bool _ | .int _ | .float _ | .str _ | .list _ => simp [bounds] at h
  | .range _ _ =>
    simp only [holdsBetween]
    split <;> exact ⟨_, rfl⟩

/-- A built-in operator of which a test is made holds or does not, unless its pattern is too
large. -/
theorem holds_of_test (h : test s op v = .ok t) (hsize : isTooLarge op v = false) :
    ∃ b, holds field op actual v = .ok b := by
  have hpattern : ∀ pattern, v.text? = some pattern → isTooLarge op (.str pattern) = false := by
    intro pattern hp
    rw [← hsize, isTooLarge, isTooLarge, hp]
    rfl
  cases op with
  | eq | neq | gt | gte | lt | lte => exact holdsScalar_of_test field actual _ h
  | like | notLike | iLike | notILike => exact holdsPattern_of_test field actual _ h hpattern
  | is | isNot => exact holdsIdentity_of_test field actual h
  | «in» | notIn =>
    obtain ⟨bs, hbs, -⟩ := map_eq_ok.1 h
    exact holdsMember_of_members field actual hbs
  | between | notBetween =>
    obtain ⟨b, hb, -⟩ := map_eq_ok.1 h
    exact holdsBetween_of_bounds field actual hb
  | custom name => cases h

end
end Comparison

/-! ### Sites -/

namespace Scoped

/-- Whether a row satisfies the operator of a site. -/
def Site.holds (registry : Registry) (row : Json.Row) (s : Site) : Except QueryError Bool :=
  holdsOperator registry s.entity s.field ((Dict.find? row s.field).getD .null) s.operator s.value

/-- The site has a built-in operator with a pattern that is too large to be matched. -/
def Site.isTooLarge (registry : Registry) (s : Site) : Bool :=
  let type := s.entity.columnType? s.field
  (registry.lookup? s.operator type (some (s.entity.name, s.field))).isNone
    && Comparison.isTooLarge (.ofName s.operator) s.value

mutual

/-- The operators of a filter, where they stand. -/
def sites (aliasName : String) : Scoped → List Site
  | .node entity ands ors fields =>
    sitesAll aliasName ands ++ sitesAll aliasName ors ++ sitesFields aliasName entity fields

/-- `sites` of every filter. -/
def sitesAll (aliasName : String) : List Scoped → List Site
  | [] => []
  | f :: rest => sites aliasName f ++ sitesAll aliasName rest

/-- The operators of entries. -/
def sitesFields (aliasName : String) (entity : Entity) :
    List (String × ScopedEntry) → List Site
  | [] => []
  | (name, e) :: rest => sitesEntry aliasName entity name e ++ sitesFields aliasName entity rest

/-- The operators of an entry. -/
def sitesEntry (aliasName : String) (entity : Entity) (name : String) : ScopedEntry → List Site
  | .column operators => operators.map fun (op, v) => ⟨entity, aliasName, name, op, v⟩
  | .related relation _ filter => sites relation.joinAlias filter
  | .notRelation | .unknownTarget _ | .noFilter _ _ => []

end

/-- The values of a filter have integers of 64 bits only. -/
def InRange (f : Scoped) (aliasName : String) : Prop :=
  ∀ s ∈ f.sites aliasName, s.value.InRange

/-- No pattern of a filter is too large to be matched. -/
def PatternsFit (f : Scoped) (registry : Registry) (aliasName : String) : Prop :=
  ∀ s ∈ f.sites aliasName, s.isTooLarge registry = false

/-- The test of an operator is made by the handler for it, and as built in if there is none. -/
theorem Site.test_eq_ok {registry : Registry} {s : Site} {t : Sql.Test} :
    s.test registry = .ok t ↔
      (∃ r, registry.lookup? s.operator (s.entity.columnType? s.field)
          (some (s.entity.name, s.field)) = some r ∧
        r.handler.test ⟨s.aliasName, s.field⟩ s.value r.config = .ok t) ∨
      (registry.lookup? s.operator (s.entity.columnType? s.field)
          (some (s.entity.name, s.field)) = none ∧
        Comparison.test ⟨⟨s.aliasName, s.field⟩, s.entity.columnType? s.field⟩
          (.ofName s.operator) s.value = .ok t) := by
  simp only [Site.test]
  cases registry.lookup? s.operator (s.entity.columnType? s.field)
    (some (s.entity.name, s.field)) with
  | none => simp
  | some r => cases htest : r.handler.test ⟨s.aliasName, s.field⟩ s.value r.config <;> simp [htest]

/-- Where a test can be made, a stored value satisfies the operator or does not. -/
theorem Site.holds_of_test {registry : Registry} {s : Site} {t : Sql.Test}
    (hr : registry.HoldsBuiltIn) (hv : s.value.InRange) (hs : s.isTooLarge registry = false)
    (ht : s.test registry = .ok t) (row : Json.Row) : ∃ b, s.holds registry row = .ok b := by
  simp only [Site.holds, holdsOperator]
  rcases Site.test_eq_ok.1 ht with ⟨r, hlookup, ht⟩ | ⟨hlookup, ht⟩
  · simp only [hlookup]
    obtain ⟨b, hb⟩ := (hr.of_lookup? hlookup).judge_of_test hv ht
      ((Dict.find? row s.field).getD .null)
    exact ⟨b, by simp only [hb]⟩
  · simp only [hlookup]
    refine Comparison.holds_of_test _ _ ht ?_
    simpa only [Site.isTooLarge, hlookup, Option.isNone_none, Bool.true_and] using hs

/-! ### Filters -/

theorem anyRow_of_forall {judge : Json.Row → Except QueryError Bool} :
    ∀ {rows : List Json.Row}, (∀ row, ∃ b, judge row = .ok b) → ∃ b, anyRow judge rows = .ok b
  | [], _ => ⟨false, rfl⟩
  | row :: rest, h => by
    obtain ⟨b, hb⟩ := h row
    rw [anyRow, hb, ok_bind]
    cases b
    · exact anyRow_of_forall h
    · exact ⟨true, rfl⟩

section
variable {τ : Type} {leaf : Site → Except QueryError τ} {registry : Registry}

/-- Whatever row it is asked of, the operator of a site has an answer once it has a leaf. -/
def Site.Decides (leaf : Site → Except QueryError τ) (registry : Registry) (s : Site) : Prop :=
  ∀ x, leaf s = .ok x → ∀ row, ∃ b, s.holds registry row = .ok b

theorem anyOperator_of_leaves {entity : Entity} {aliasName name : String} (row : Json.Row) :
    ∀ {operators : List (String × Filter.Value)} {ts : List (Sql.Tree τ)},
      (∀ op v, (op, v) ∈ operators → Site.Decides leaf registry ⟨entity, aliasName, name, op, v⟩) →
      leaves leaf entity aliasName name operators = .ok ts →
      ∃ b, anyOperator registry entity name ((Dict.find? row name).getD .null) operators = .ok b
  | [], _, _, _ => ⟨false, rfl⟩
  | (op, v) :: rest, _, hs, h => by
    obtain ⟨x, hx, ts, hts, -⟩ := by simpa only [leaves, bind_eq_ok] using h
    obtain ⟨b, hb⟩ := hs op v (List.mem_cons_self ..) x hx row
    rw [anyOperator, show holdsOperator registry entity name _ op v = .ok b from hb, ok_bind]
    cases b
    · exact anyOperator_of_leaves row (fun op v h => hs op v (List.mem_cons_of_mem _ h)) hts
    · exact ⟨true, rfl⟩

mutual

/-- A filter whose tree can be made is judged on every row. -/
theorem holds_of_tree : (f : Scoped) → {aliasName : String} → {c : Option (Sql.Tree τ)} →
    (∀ s ∈ f.sites aliasName, s.Decides leaf registry) → f.tree leaf aliasName = .ok c →
    (row : Json.Row) → ∃ b, f.holds registry row = .ok b
  | .node entity ands ors fields, aliasName, c, hs, hc, row => by
    simp only [tree, bind_eq_ok] at hc
    obtain ⟨_, hands, _, hors, _, hfields, -⟩ := hc
    simp only [sites, List.mem_append, or_imp, forall_and] at hs
    obtain ⟨⟨hsands, hsors⟩, hsfields⟩ := hs
    obtain ⟨a, ha⟩ := holdsAll_of_trees ands hsands hands row
    obtain ⟨o, ho⟩ := holdsAny_of_trees ors hsors hors row
    obtain ⟨b, hb⟩ := holdsFields_of_fieldTrees fields hsfields hfields row
    simp only [holds, ha, ho, hb, ok_bind]
    cases a <;> cases o <;> cases ors.isEmpty <;> exact ⟨_, rfl⟩

theorem holdsAll_of_trees : (fs : List Scoped) → {aliasName : String} →
    {cs : List (Option (Sql.Tree τ))} →
    (∀ s ∈ sitesAll aliasName fs, s.Decides leaf registry) → trees leaf aliasName fs = .ok cs →
    (row : Json.Row) → ∃ b, holdsAll registry row fs = .ok b
  | [], _, _, _, _, _ => ⟨true, rfl⟩
  | f :: rest, aliasName, cs, hs, hc, row => by
    simp only [trees, bind_eq_ok] at hc
    obtain ⟨_, hf, _, hrest, -⟩ := hc
    simp only [sitesAll, List.mem_append, or_imp, forall_and] at hs
    obtain ⟨a, ha⟩ := holds_of_tree f hs.1 hf row
    obtain ⟨b, hb⟩ := holdsAll_of_trees rest hs.2 hrest row
    simp only [holdsAll, ha, hb, ok_bind]
    cases a <;> exact ⟨_, rfl⟩

theorem holdsAny_of_trees : (fs : List Scoped) → {aliasName : String} →
    {cs : List (Option (Sql.Tree τ))} →
    (∀ s ∈ sitesAll aliasName fs, s.Decides leaf registry) → trees leaf aliasName fs = .ok cs →
    (row : Json.Row) → ∃ b, holdsAny registry row fs = .ok b
  | [], _, _, _, _, _ => ⟨false, rfl⟩
  | f :: rest, aliasName, cs, hs, hc, row => by
    simp only [trees, bind_eq_ok] at hc
    obtain ⟨_, hf, _, hrest, -⟩ := hc
    simp only [sitesAll, List.mem_append, or_imp, forall_and] at hs
    obtain ⟨a, ha⟩ := holds_of_tree f hs.1 hf row
    obtain ⟨b, hb⟩ := holdsAny_of_trees rest hs.2 hrest row
    simp only [holdsAny, ha, hb, ok_bind]
    cases a <;> exact ⟨_, rfl⟩

theorem holdsFields_of_fieldTrees : (fields : List (String × ScopedEntry)) → {entity : Entity} →
    {aliasName : String} → {cs : List (Option (Sql.Tree τ))} →
    (∀ s ∈ sitesFields aliasName entity fields, s.Decides leaf registry) →
    fieldTrees leaf aliasName entity fields = .ok cs →
    (row : Json.Row) → ∃ b, holdsFields registry row entity fields = .ok b
  | [], _, _, _, _, _, _ => ⟨true, rfl⟩
  | (name, e) :: rest, entity, aliasName, cs, hs, hc, row => by
    simp only [fieldTrees, bind_eq_ok] at hc
    obtain ⟨_, he, _, hrest, -⟩ := hc
    simp only [sitesFields, List.mem_append, or_imp, forall_and] at hs
    obtain ⟨a, ha⟩ := holdsEntry_of_entryTree e hs.1 he row
    obtain ⟨b, hb⟩ := holdsFields_of_fieldTrees rest hs.2 hrest row
    simp only [holdsFields, ha, hb, ok_bind]
    cases a <;> exact ⟨_, rfl⟩

theorem holdsEntry_of_entryTree : (e : ScopedEntry) → {entity : Entity} →
    {aliasName name : String} → {c : Option (Sql.Tree τ)} →
    (∀ s ∈ sitesEntry aliasName entity name e, s.Decides leaf registry) →
    entryTree leaf aliasName entity name e = .ok c →
    (row : Json.Row) → ∃ b, holdsEntry registry row entity name e = .ok b
  | .column operators, entity, aliasName, name, c, hs, hc, row => by
    simp only [entryTree, bind_eq_ok] at hc
    obtain ⟨ts, hts, -⟩ := hc
    obtain ⟨b, hb⟩ := anyOperator_of_leaves row
      (fun op v hmem => hs _ (List.mem_map_of_mem hmem)) hts
    simp only [holdsEntry, hb]
    split <;> exact ⟨_, rfl⟩
  | .notRelation, _, _, _, _, _, hc, _ | .unknownTarget _, _, _, _, _, _, hc, _
  | .noFilter _ _, _, _, _, _, _, hc, _ => by simp [entryTree] at hc
  | .related relation _ filter, entity, aliasName, name, c, hs, hc, row => by
    simp only [entryTree, bind_eq_ok] at hc
    obtain ⟨_, hf, -⟩ := hc
    rw [holdsEntry]
    exact anyRow_of_forall fun related => holds_of_tree filter hs hf related

end
end

/-- A filter that has a condition is judged on every row. -/
theorem holds_of_condition {f : Scoped} {registry : Registry} {aliasName : String}
    {c : Option Sql.Condition} (hr : registry.HoldsBuiltIn) (hv : f.InRange aliasName)
    (hp : f.PatternsFit registry aliasName) (hc : f.condition registry aliasName = .ok c)
    (row : Json.Row) : ∃ b, f.holds registry row = .ok b :=
  holds_of_tree f (fun s hs _ hx => Site.holds_of_test hr (hv s hs) (hp s hs) hx) hc row

end Scoped
end RowQuery
