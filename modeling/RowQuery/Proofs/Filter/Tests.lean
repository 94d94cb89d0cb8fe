import RowQuery.Proofs.Filter.Agreement
import RowQuery.Proofs.Sql.Placeholders
/-!
The tests that operators are compiled to.

A test has one of few forms. A cast is to one of the types that texts are cast to, and the test of a
built-in handler is made of texts of its own, into which a path gets with plain identifiers only.
What a test binds are the scalars of the operator's value, in their order. The leaves of the tree of
a filter carry such tests.
-/

namespace RowQuery

namespace Sql

/-- A cast, if there is one, is to a type that texts are cast to. -/
def Bound.HasKnownCast (b : Bound) : Prop :=
  ∀ type ∈ b.cast, ∃ column, Comparison.castTarget? column = some type

/-- The tests that operators are compiled to. -/
inductive Test.IsCompiled : Test → Prop
  | compare (op : Comparator) (c : Column) {v : Bound} (hv : v.HasKnownCast) :
    IsCompiled (.compare op c v)
  | inList (negated : Bool) (c : Column) {vs : List Bound} (hne : vs ≠ [])
    (hvs : ∀ v ∈ vs, v.HasKnownCast) : IsCompiled (.inList negated c vs)
  | between (negated : Bool) (c : Column) {lower upper : Bound} (hlower : lower.HasKnownCast)
    (hupper : upper.HasKnownCast) : IsCompiled (.between negated c lower upper)
  | isNull (negated : Bool) (c : Column) : IsCompiled (.isNull negated c)
  | isBool (negated : Bool) (c : Column) (b : Bool) : IsCompiled (.isBool negated c b)
  | multiple (c : Column) (divisor : Param) :
    IsCompiled (.custom "MOD(CAST("
      [(.column c, " AS NUMERIC), CAST("), (.bound ⟨divisor, none⟩, " AS NUMERIC)) = 0")])
  | contained (c : Column) (items : Param) :
    IsCompiled (.custom ""
      [(.column c, " @> CAST("), (.bound ⟨items, none⟩, " AS JSONB)")])
  | extracted (c : Column) {keys : List String} (hkeys : ∀ k ∈ keys, PathEq.isSafe k = true)
    (value : Param) :
    IsCompiled (.custom ""
      [(.column c, " #>> '\x7b" ++ ",".intercalate keys ++ "\x7d' = "),
        (.bound ⟨value, none⟩, "")])

/-- The values that a test binds, in the order of its text. -/
def Test.values (t : Test) : List Param := Piece.values t.pieces

theorem Bound.values_pieces (b : Bound) : Piece.values b.pieces = [b.value] := by
  obtain ⟨v, cast⟩ := b
  cases cast <;> rfl

theorem Test.values_compare (op : Comparator) (c : Column) (v : Bound) :
    (Test.compare op c v).values = [v.value] := v.values_pieces

theorem Test.values_inList (negated : Bool) (c : Column) (vs : List Bound) :
    (Test.inList negated c vs).values = vs.map Bound.value := by
  rw [values, pieces, Piece.values_text, Piece.values_append, Piece.values_separated,
    List.flatMap_map]
  simp only [Bound.values_pieces, Piece.values_text, Piece.values_nil, List.append_nil,
    List.map_eq_flatMap]

theorem Test.values_between (negated : Bool) (c : Column) (lower upper : Bound) :
    (Test.between negated c lower upper).values = [lower.value, upper.value] := by
  rw [values, pieces, Piece.values_text, Piece.values_append, Piece.values_text,
    Bound.values_pieces, Bound.values_pieces]
  rfl

end Sql

/-- The scalars of a value in their order: of a list its items, of a range its bounds, else the
value itself. There are none if an item or a bound is no scalar. -/
def Filter.Value.scalars? : Filter.Value → Option (List Sql.Param)
  | .list items => items.mapM Comparison.param?
  | .range lower upper => [lower, upper].mapM Comparison.param?
  | v => [v].mapM Comparison.param?

/-- A plain identifier has word characters only and begins with no digit. -/
theorem PathEq.wordChars_of_isSafe {name : String} (h : isSafe name = true) :
    ∃ c rest, name.toList = c :: rest ∧ c.isDigit = false ∧
      ∀ d ∈ name.toList, isWordChar d = true := by
  unfold isSafe at h
  split at h
  · cases h
  · rename_i c rest hname
    simp only [Bool.and_eq_true, List.all_eq_true, Bool.not_eq_true'] at h
    exact ⟨c, rest, hname, h.2, hname ▸ h.1.2⟩

/-- The segments of a path are plain identifiers. -/
theorem PathEq.isSafe_of_path {config : Json.Value} {keys : List String}
    (h : path config = .ok keys) : ∀ k ∈ keys, isSafe k = true := by
  unfold path at h
  simp only at h
  split at h
  · cases h
  · split at h
    · cases h
    · rename_i hfind
      obtain rfl := Except.ok.inj h
      simpa using List.find?_eq_none.1 hfind

namespace Comparison

open RowQuery.Filter (Operator Value)

variable {s : Subject} {op : Operator} {v : Value}

theorem scalar_eq_ok {b : Sql.Bound} (h : scalar s op v = .ok b) :
    param? v = some b.value ∧ b.HasKnownCast := by
  unfold scalar at h
  split at h
  · rename_i p hp
    obtain rfl := Except.ok.inj h
    refine ⟨hp, fun type htype => ?_⟩
    cases p with
    | text =>
      obtain ⟨column, -, hcolumn⟩ := Option.bind_eq_some_iff.1 htype
      exact ⟨column, hcolumn⟩
    | null | bool | int | float => cases htype
  · cases h

theorem scalars_eq_ok {items : List Value} {bs : List Sql.Bound} (h : scalars s op items = .ok bs) :
    items.mapM param? = some (bs.map Sql.Bound.value) ∧ ∀ b ∈ bs, b.HasKnownCast := by
  induction items generalizing bs with
  | nil => cases h; exact ⟨rfl, List.forall_mem_nil _⟩
  | cons v rest ih =>
    simp only [scalars, bind_eq_ok, pure_eq_ok] at h
    obtain ⟨b, hb, bs, hbs, rfl⟩ := h
    obtain ⟨hvalue, hcast⟩ := scalar_eq_ok hb
    obtain ⟨hvalues, hcasts⟩ := ih hbs
    refine ⟨?_, List.forall_mem_cons.2 ⟨hcast, hcasts⟩⟩
    rw [List.mapM_cons, hvalue, hvalues]
    rfl

theorem members_eq_ok {bs : List Sql.Bound} (h : members s op v = .ok bs) :
    v.scalars? = some (bs.map Sql.Bound.value) ∧ bs ≠ [] ∧ ∀ b ∈ bs, b.HasKnownCast := by
  match v with
  | .list (w :: rest) =>
    have hscalars : scalars s op (w :: rest) = .ok bs := h
    obtain ⟨hvalues, hcasts⟩ := scalars_eq_ok hscalars
    refine ⟨hvalues, ?_, hcasts⟩
    rintro rfl
    simp only [members, scalars, bind_eq_ok, pure_eq_ok] at h
    obtain ⟨_, -, _, -, h⟩ := h
    cases h
  | .list [] | .null | .bool _ | .int _ | .float _ | .str _ | .range _ _ => cases h

theorem bounds_eq_ok {l u : Sql.Bound} (h : bounds s op v = .ok (l, u)) :
    v.scalars? = some [l.value, u.value] ∧ l.HasKnownCast ∧ u.HasKnownCast := by
  match v with
  | .range lower upper =>
    simp only [bounds, bind_eq_ok, pure_eq_ok, Prod.mk.injEq] at h
    obtain ⟨_, hl, _, hu, rfl, rfl⟩ := h
    obtain ⟨hlower, hlcast⟩ := scalar_eq_ok hl
    obtain ⟨hupper, hucast⟩ := scalar_eq_ok hu
    refine ⟨?_, hlcast, hucast⟩
    simp only [Value.scalars?, List.mapM_cons, hlower, hupper]
    rfl
  | .null | .bool _ | .int _ | .float _ | .str _ | .list _ => cases h

theorem isCompiled_scalarTest {c : Sql.Comparator} {t : Sql.Test}
    (h : scalarTest s op c v = .ok t) : t.IsCompiled ∧ v.scalars? = some t.values := by
  obtain ⟨⟨p, cast⟩, hb, rfl⟩ := map_eq_ok.1 h
  obtain ⟨hvalue, hcast⟩ := scalar_eq_ok hb
  refine ⟨.compare c s.column hcast, ?_⟩
  rw [Sql.Test.values_compare]
  cases v <;> cases hvalue <;> rfl

theorem isCompiled_patternTest {c : Sql.Comparator} {t : Sql.Test}
    (h : patternTest s op c v = .ok t) : t.IsCompiled ∧ v.scalars? = some t.values := by
  cases v <;> cases h
  exact ⟨.compare c s.column fun _ htype => (nomatch htype), rfl⟩

theorem isCompiled_inList {negated : Bool} {t : Sql.Test}
    (h : (members s op v).map (.inList negated s.column) = .ok t) :
    t.IsCompiled ∧ v.scalars? = some t.values := by
  obtain ⟨bs, hbs, rfl⟩ := map_eq_ok.1 h
  obtain ⟨hvalues, hne, hcasts⟩ := members_eq_ok hbs
  exact ⟨.inList negated s.column hne hcasts, by rw [hvalues, Sql.Test.values_inList]⟩

theorem isCompiled_between {negated : Bool} {t : Sql.Test}
    (h : ((bounds s op v).map fun b => .between negated s.column b.1 b.2) = .ok t) :
    t.IsCompiled ∧ v.scalars? = some t.values := by
  obtain ⟨⟨l, u⟩, hb, rfl⟩ := map_eq_ok.1 h
  obtain ⟨hvalues, hl, hu⟩ := bounds_eq_ok hb
  exact ⟨.between negated s.column hl hu, by rw [hvalues, Sql.Test.values_between]⟩

/-- A test for null or truth binds nothing. -/
theorem isCompiled_identityTest {negated : Bool} {t : Sql.Test}
    (h : identityTest s op negated v = .ok t) : t.IsCompiled ∧ t.values = [] := by
  cases v <;> cases h
  · exact ⟨.isNull negated s.column, rfl⟩
  · exact ⟨.isBool negated s.column _, rfl⟩

end Comparison

namespace Scoped

variable {registry : Registry} {s : Site}

/-- The registration for the operator of a site. -/
def Site.registration? (registry : Registry) (s : Site) : Option Registration :=
  registry.lookup? s.operator (s.entity.columnType? s.field) (some (s.entity.name, s.field))

/-- The operator of a site is the built-in test for null and truth or its negation. -/
def Site.IsIdentity (registry : Registry) (s : Site) : Prop :=
  s.registration? registry = none ∧
    (Filter.Operator.ofName s.operator = .is ∨ Filter.Operator.ofName s.operator = .isNot)

/-- The values that the operator of a site binds. -/
inductive Site.Binds (registry : Registry) (s : Site) : List Sql.Param → Prop
  /-- Tests for null and truth bind nothing. -/
  | identity (h : s.IsIdentity registry) : Binds registry s []
  /-- Other built-in operators bind the scalars of their value. -/
  | scalars {ps : List Sql.Param} (h : s.registration? registry = none)
    (hidentity : ¬ s.IsIdentity registry) (hps : s.value.scalars? = some ps) : Binds registry s ps
  /-- The divisor of a test for multiples. -/
  | divisor {config : Json.Value} {d : Sql.Param}
    (h : s.registration? registry = some ⟨MultipleOf.handler, config⟩)
    (hd : Comparison.param? s.value = some d) : Binds registry s [d]
  /-- The JSON text of the items that an array has to contain. -/
  | contained {config : Json.Value} {items : List Json.Value}
    (h : s.registration? registry = some ⟨Contains.handler, config⟩)
    (hitems : Contains.wanted s.value = .ok items) :
    Binds registry s [.text (Json.Value.arr items).text]
  /-- The text that is compared with what is at a path. -/
  | extracted {config : Json.Value} {p : Sql.Param}
    (h : s.registration? registry = some ⟨PathEq.handler, config⟩)
    (hp : PathEq.extracted? s.value = some p) : Binds registry s [p]

theorem Site.isCompiled_of_handler {r : Registration} {t : Sql.Test}
    (hr : s.registration? registry = some r) (hb : r.handler.IsBuiltIn)
    (ht : r.handler.test ⟨s.aliasName, s.field⟩ s.value r.config = .ok t) :
    t.IsCompiled ∧ s.Binds registry t.values := by
  obtain ⟨handler, config⟩ := r
  rcases hb with h | h | h <;> (simp only at h; subst h)
  · obtain ⟨d, hd, rfl⟩ := MultipleOf.test_eq_ok.1 ht
    refine ⟨.multiple _ d, .divisor hr ?_⟩
    cases hv : s.value with
    | int | float =>
      simp only [hv, MultipleOf.divisor] at hd
      split at hd
      · cases hd
      · rw [← Except.ok.inj hd]
        rfl
    | null | bool | str | list | range => simp [hv, MultipleOf.divisor] at hd
  · obtain ⟨items, hitems, rfl⟩ := Contains.test_eq_ok.1 ht
    exact ⟨.contained _ _, .contained hr hitems⟩
  · obtain ⟨keys, p, hkeys, hp, rfl⟩ := PathEq.test_eq_ok.1 ht
    exact ⟨.extracted _ (PathEq.isSafe_of_path hkeys) p, .extracted hr hp⟩

/-- What the operator of a site is compiled to has one of the known forms and binds what the
operator binds. -/
theorem Site.isCompiled_of_test (hr : registry.HoldsBuiltIn) {t : Sql.Test}
    (h : s.test registry = .ok t) : t.IsCompiled ∧ s.Binds registry t.values := by
  rcases Site.test_eq_ok.1 h with ⟨r, hlookup, h⟩ | ⟨hlookup, h⟩
  · exact isCompiled_of_handler hlookup (hr.of_lookup? hlookup) h
  · -- an operator that is no test for null and truth binds its scalars
    have hscalars : Filter.Operator.ofName s.operator ≠ .is →
        Filter.Operator.ofName s.operator ≠ .isNot →
        (t.IsCompiled ∧ s.value.scalars? = some t.values) →
        t.IsCompiled ∧ s.Binds registry t.values := by
      rintro his hisNot ⟨hcompiled, hvalues⟩
      exact ⟨hcompiled, .scalars hlookup (fun hid => hid.2.elim his hisNot) hvalues⟩
    cases hop : Filter.Operator.ofName s.operator with
    | is =>
      rw [hop] at h
      obtain ⟨hcompiled, hvalues⟩ := Comparison.isCompiled_identityTest h
      exact ⟨hcompiled, hvalues ▸ .identity ⟨hlookup, .inl hop⟩⟩
    | isNot =>
      rw [hop] at h
      obtain ⟨hcompiled, hvalues⟩ := Comparison.isCompiled_identityTest h
      exact ⟨hcompiled, hvalues ▸ .identity ⟨hlookup, .inr hop⟩⟩
    | eq | neq | gt | gte | lt | lte =>
      rw [hop] at h hscalars
      exact hscalars (by simp) (by simp) (Comparison.isCompiled_scalarTest h)
    | like | notLike | iLike | notILike =>
      rw [hop] at h hscalars
      exact hscalars (by simp) (by simp) (Comparison.isCompiled_patternTest h)
    | «in» | notIn =>
      rw [hop] at h hscalars
      exact hscalars (by simp) (by simp) (Comparison.isCompiled_inList h)
    | between | notBetween =>
      rw [hop] at h hscalars
      exact hscalars (by simp) (by simp) (Comparison.isCompiled_between h)
    | custom name =>
      rw [hop] at h
      cases h

/-- The leaves of the tree of a filter are its operators, each with the test it is compiled to. -/
theorem isCompiled_of_tree (hr : registry.HoldsBuiltIn) {f : Scoped} {aliasName : String}
    {t : Sql.Tree Leaf} (h : f.tree (Leaf.ofSite registry) aliasName = .ok (some t)) :
    ∀ l ∈ t.leaves, l.site.test registry = .ok l.test ∧ l.test.IsCompiled ∧
      l.site.Binds registry l.test.values := by
  intro l hl
  obtain ⟨s, -, hleaf⟩ := exists_site_of_tree f h hl
  obtain ⟨test, htest, rfl⟩ := map_eq_ok.1 hleaf
  exact ⟨htest, Site.isCompiled_of_test hr htest⟩

end Scoped
end RowQuery
