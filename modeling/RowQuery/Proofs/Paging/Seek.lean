import RowQuery.Paging.Seek
import RowQuery.Proofs.Filter.Combination
import RowQuery.Proofs.Registry
import RowQuery.Proofs.SortOrder.Comparison
/-!
Seeking past a row.

The filter of a seek is a disjunction: a row comes after another one if they agree in some leading
fields of the sort and it comes after in the next one. Field by field, agreeing and coming after are
what the order of values says, so the filter selects the rows that the order of rows puts behind.
-/

namespace RowQuery

namespace Scope

variable {x : Scope} {row r : Json.Row} {s : SortField} {kind : SortKind}

/-- What a filter is judged to be, false if it is not judged. -/
def verdict (x : Scope) (f : Filter) (row : Json.Row) : Bool :=
  match (f.scope x.catalog x.entity).holds x.registry row with
  | .ok b => b
  | .error _ => false

/-- The filter is judged on the row one way or the other. -/
def Decides (x : Scope) (f : Filter) (row : Json.Row) : Prop := x.Judges f row (x.verdict f row)

theorem Judges.verdict_eq {f : Filter} {b : Bool} (h : x.Judges f row b) :
    x.verdict f row = b := by
  rw [Judges] at h
  rw [verdict, h]

theorem Judges.decides {f : Filter} {b : Bool} (h : x.Judges f row b) : x.Decides f row := by
  rw [Decides, h.verdict_eq]
  exact h

/-- The operators that a seek uses. -/
def seekOperators : List String := ["eq", "gt", "lt", "is", "isNot"]

/-- The name is that of a column on which the operators of a seek are the built-in ones. -/
structure IsPlain (x : Scope) (name : String) : Prop where
  noRelation : x.entity.relation? name = none
  builtIn : ∀ op ∈ seekOperators,
    x.registry.lookup? op (x.entity.columnType? name) (some (x.entity.name, name)) = none

/-- Without registrations and relations every name is plain. -/
theorem isPlain_of_empty {catalog : Catalog} {entity : Entity} (h : entity.relations = [])
    (name : String) : IsPlain ⟨catalog, .empty, entity⟩ name where
  noRelation := by simp [Entity.relation?, h]
  builtIn _ _ := Registry.empty_lookup? ..

/-! ### Operators of a seek -/

theorem exists_scalar {v : Json.Value} (hk : kind.IsExact) (hv : kind.Admits v) :
    ∃ w, Filter.Value.ofJson? v = some w ∧ w.isScalar = true ∧ w.toJson = v := by
  rcases hv with rfl | hv
  · exact ⟨.null, rfl, rfl, rfl⟩
  · cases kind with
    | integer =>
      obtain ⟨i, rfl, hi⟩ := SortKind.exists_int_of_ofValue? hv
      refine ⟨.int i, ?_, rfl, rfl⟩
      simp [Filter.Value.ofJson?, Filter.Value.ofNumber?, Json.Number.int64?, hi]
    | text =>
      obtain ⟨t, rfl⟩ := SortKind.exists_str_of_ofValue? hv
      exact ⟨.str t, rfl, rfl, rfl⟩
    | truth =>
      obtain ⟨b, rfl⟩ := SortKind.exists_bool_of_ofValue? hv
      exact ⟨.bool b, rfl, rfl, rfl⟩
    | float | collection => cases hk

theorem exists_scalarTest {t : Comparison.Subject} {op : Filter.Operator} {c : Sql.Comparator}
    {w : Filter.Value} (hw : w.isScalar = true) :
    ∃ u, Comparison.scalarTest t op c w = .ok u := by
  cases w with
  | list | range => cases hw
  | null | bool | int | float | str => exact ⟨_, rfl⟩

theorem IsPlain.tests {name : String} (h : x.IsPlain name) {w : Filter.Value}
    (hw : w.isScalar = true) :
    x.Tests name "eq" w ∧ x.Tests name "gt" w ∧ x.Tests name "lt" w ∧
      x.Tests name "is" .null ∧ x.Tests name "isNot" .null := by
  simp only [Tests, Scoped.Site.test, h.builtIn "eq" (by decide), h.builtIn "gt" (by decide),
    h.builtIn "lt" (by decide), h.builtIn "is" (by decide), h.builtIn "isNot" (by decide)]
  exact ⟨exists_scalarTest hw, exists_scalarTest hw, exists_scalarTest hw, ⟨_, rfl⟩, ⟨_, rfl⟩⟩

section
variable {name : String} (h : x.IsPlain name) (actual : Json.Value)
include h

theorem IsPlain.holdsOperator_eq {w : Filter.Value} (hw : w.isScalar = true) :
    Scoped.holdsOperator x.registry x.entity name actual "eq" w
      = .ok (Comparison.ordered Ordering.isEq actual w.toJson) := by
  simp only [Scoped.holdsOperator, h.builtIn "eq" (by decide)]
  exact if_pos hw

theorem IsPlain.holdsOperator_gt {w : Filter.Value} (hw : w.isScalar = true) :
    Scoped.holdsOperator x.registry x.entity name actual "gt" w
      = .ok (Comparison.ordered Ordering.isGT actual w.toJson) := by
  simp only [Scoped.holdsOperator, h.builtIn "gt" (by decide)]
  exact if_pos hw

theorem IsPlain.holdsOperator_lt {w : Filter.Value} (hw : w.isScalar = true) :
    Scoped.holdsOperator x.registry x.entity name actual "lt" w
      = .ok (Comparison.ordered Ordering.isLT actual w.toJson) := by
  simp only [Scoped.holdsOperator, h.builtIn "lt" (by decide)]
  exact if_pos hw

theorem IsPlain.holdsOperator_is :
    Scoped.holdsOperator x.registry x.entity name actual "is" .null = .ok actual.isNull := by
  simp only [Scoped.holdsOperator, h.builtIn "is" (by decide)]
  exact congrArg _ (Bool.bne_false _)

theorem IsPlain.holdsOperator_isNot :
    Scoped.holdsOperator x.registry x.entity name actual "isNot" .null
      = .ok (!actual.isNull) := by
  simp only [Scoped.holdsOperator, h.builtIn "isNot" (by decide)]
  exact congrArg _ (Bool.bne_true _)

end
/-! ### Filters on one field -/

section
variable {a b : Json.Value}

theorem compare?_null_left (v : Json.Value) : Json.Value.compare? .null v = none := by
  cases v <;> rfl

open SortOrder in
theorem ordered_isEq (hk : kind.IsExact) (ha : SortKind.ofValue? a = some kind)
    (hb : kind.Admits b) (s : SortField) :
    Comparison.ordered Ordering.isEq b a = decide (compareValues s a b = .eq) := by
  have ha' := isNull_eq_false_of_ofValue? ha
  rw [Comparison.ordered]
  rcases hb with rfl | hb
  · rw [compare?_null_left, compareValues_null_right ha']
    cases s.effectiveNulls <;> rfl
  · obtain ⟨α, _, _, _, key, hkey⟩ := hk.exists_key
    rw [compareValues_of_isNull_eq_false ha' (isNull_eq_false_of_ofValue? hb), valueOrder,
      (hkey a b ha hb).1, (hkey b a hb ha).1, Option.getD_some, Bool.eq_iff_iff, decide_eq_true_eq,
      directed_eq_eq, Std.OrientedOrd.eq_swap]
    cases compare (key a) (key b) <;> simp [Ordering.isEq]

open SortOrder in
/-- Beyond a value in the direction of a field is what comes after it, null apart. -/
theorem ordered_beyond (hk : kind.IsExact) (ha : SortKind.ofValue? a = some kind)
    (hb : kind.Admits b) (s : SortField) :
    Comparison.ordered (match s.direction with | .asc => Ordering.isGT | .desc => Ordering.isLT) b a
      = (decide (compareValues s a b = .lt) && !b.isNull) := by
  have ha' := isNull_eq_false_of_ofValue? ha
  rw [Comparison.ordered]
  rcases hb with rfl | hb
  · rw [compare?_null_left]
    simp [Json.Value.isNull]
  · obtain ⟨α, _, _, _, key, hkey⟩ := hk.exists_key
    have hb' := isNull_eq_false_of_ofValue? hb
    rw [compareValues_of_isNull_eq_false ha' hb', valueOrder, (hkey a b ha hb).1,
      (hkey b a hb ha).1, hb', Option.getD_some, Std.OrientedOrd.eq_swap]
    cases hd : s.direction <;> cases compare (key a) (key b) <;>
      simp [directed, hd, Direction.isAscending, Ordering.isGT, Ordering.isLT]

end

theorem judges_onField {name op : String} {w : Filter.Value} {b : Bool}
    (hname : x.entity.relation? name = none)
    (h : Scoped.holdsOperator x.registry x.entity name ((Dict.find? row name).getD .null) op w
      = .ok b) :
    x.Judges (.node [] [] [(name, .comparison [(op, w)])]) row b := by
  have hjudges : x.Judges (.node [] [] [(name, .comparison [(op, w)])]) row
      ([(op, w)].any fun _ => b) := by
    refine judges_column hname (List.cons_ne_nil _ _) fun o ho => ?_
    rwa [List.mem_singleton.1 ho]
  rwa [List.any_cons, List.any_nil, Bool.or_false] at hjudges

/-- Two values are null or of one exact kind. -/
def Comparable (a b : Json.Value) : Prop :=
  ∃ kind : SortKind, kind.IsExact ∧ kind.Admits a ∧ kind.Admits b

theorem toJson_ne_null {w : Filter.Value} (hw : w ≠ .null) : w.toJson ≠ .null := by
  cases w with
  | null => exact absurd rfl hw
  | bool | int | float | str | list | range => exact Json.Value.noConfusion

theorem ofValue?_of_admits {v : Json.Value} (hv : v ≠ .null) (h : kind.Admits v) :
    SortKind.ofValue? v = some kind :=
  h.resolve_left hv

open SortOrder in
/-- A row agrees with a value in a field where the two compare as equal. -/
theorem judges_agreesWith (hx : x.IsPlain s.field) {w : Filter.Value} (hw : w.isScalar = true)
    (hrow : Comparable w.toJson (valueAt row s.field)) :
    x.Judges (Filter.agreesWith s.field w) row
      (decide (compareValues s w.toJson (valueAt row s.field) = .eq)) := by
  by_cases hnull : w = .null
  · subst hnull
    have hjudge : decide (compareValues s Filter.Value.null.toJson (valueAt row s.field) = .eq)
        = (valueAt row s.field).isNull := by
      cases hrow' : (valueAt row s.field).isNull with
      | true => rw [compareValues, hrow']; rfl
      | false =>
        rw [show Filter.Value.null.toJson = .null from rfl, compareValues_null_left hrow']
        cases s.effectiveNulls <;> rfl
    rw [hjudge]
    exact judges_onField hx.noRelation (hx.holdsOperator_is _)
  · have hfilter : Filter.agreesWith s.field w
        = .node [] [] [(s.field, .comparison [("eq", w)])] := by
      cases w <;> first | exact absurd rfl hnull | rfl
    obtain ⟨kind, hk, hv, hrow⟩ := hrow
    rw [hfilter, ← ordered_isEq hk (ofValue?_of_admits (toJson_ne_null hnull) hv) hrow s]
    exact judges_onField hx.noRelation (hx.holdsOperator_eq _ hw)

theorem accepts_agreesWith {name : String} (hx : x.IsPlain name) {w : Filter.Value}
    (hw : w.isScalar = true) : x.Accepts (Filter.agreesWith name w) := by
  obtain ⟨heq, -, -, his, -⟩ := hx.tests hw
  cases w with
  | null => exact accepts_column hx.noRelation (List.forall_mem_singleton.2 his)
  | bool | int | float | str | list | range =>
    exact accepts_column hx.noRelation (List.forall_mem_singleton.2 heq)

theorem withOperator_onField (field : String) (op also : Filter.Operator)
    (v w : Filter.Value) :
    (Filter.onField field op w).withOperator field also v
      = .node [] [] [(field, .comparison (Dict.insert also.name v [(op.name, w)]))] := by
  have hfields : Filter.onField field op w = .node [] [] [(field, .comparison [(op.name, w)])] :=
    rfl
  simp only [hfields, Filter.withOperator, Filter.ands, Filter.ors, Filter.fields, Dict.find?,
    Dict.insert, if_true, if_neg (String.lt_irrefl field)]

/-- The operators of the rows beyond a value that is not null, by their names. -/
def beyondOperators (s : SortField) (w : Filter.Value) : List (String × Filter.Value) :=
  match s.direction, s.effectiveNulls with
  | .asc, .first => [("gt", w)]
  | .desc, .first => [("lt", w)]
  | .asc, .last => [("gt", w), ("is", .null)]
  | .desc, .last => [("is", .null), ("lt", w)]

theorem beyondOperators_ne_nil (s : SortField) (w : Filter.Value) : beyondOperators s w ≠ [] := by
  unfold beyondOperators
  cases s.direction <;> cases s.effectiveNulls <;> exact List.cons_ne_nil _ _

/-- The filter of the rows beyond a value that is not null, null apart or with it. -/
theorem comesAfter?_of_ne_null {w : Filter.Value} (hw : w ≠ .null) :
    Filter.comesAfter? s w
      = some (.node [] [] [(s.field, .comparison (beyondOperators s w))]) := by
  have hfirst : s.effectiveNulls = .first → Filter.comesAfter? s w
      = some (.onField s.field (match s.direction with | .asc => .gt | .desc => .lt) w) := by
    intro hn
    simp only [Filter.comesAfter?, hn]
    cases w with
    | null => exact absurd rfl hw
    | bool | int | float | str | list | range => rfl
  have hlast : s.effectiveNulls = .last → Filter.comesAfter? s w
      = some ((Filter.onField s.field (match s.direction with | .asc => .gt | .desc => .lt)
          w).withOperator s.field .is .null) := by
    intro hn
    simp only [Filter.comesAfter?, hn]
    cases w with
    | null => exact absurd rfl hw
    | bool | int | float | str | list | range => rfl
  cases hn : s.effectiveNulls with
  | first =>
    rw [hfirst hn, beyondOperators, hn]
    cases s.direction <;> rfl
  | last =>
    have hgt : Dict.insert "is" Filter.Value.null [("gt", w)] = [("gt", w), ("is", .null)] := by
      rw [Dict.insert, if_neg (by decide), if_neg (by decide), Dict.insert]
    have hlt : Dict.insert "is" Filter.Value.null [("lt", w)] = [("is", .null), ("lt", w)] := by
      rw [Dict.insert, if_pos (by decide)]
    rw [hlast hn, withOperator_onField, beyondOperators, hn]
    cases s.direction with
    | asc => simp only [Filter.Operator.name, hgt]
    | desc => simp only [Filter.Operator.name, hlt]

/-- The rows beyond a value that is null come after all rows with null, if null comes first. -/
theorem comesAfter?_null : Filter.comesAfter? s .null
    = match s.effectiveNulls with
      | .first => some (.node [] [] [(s.field, .comparison [("isNot", .null)])])
      | .last => none := by
  unfold Filter.comesAfter?
  cases s.effectiveNulls <;> rfl

section
open SortOrder

/-- Whether one of the operators beyond a value holds: it asks for null or compares. -/
def beyondHolds (s : SortField) (v : Json.Value) (row : Json.Row)
    (o : String × Filter.Value) : Bool :=
  if o.1 = "is" then (valueAt row s.field).isNull
  else decide (compareValues s v (valueAt row s.field) = .lt) && !(valueAt row s.field).isNull

theorem any_beyondHolds {v : Json.Value} (hv : SortKind.ofValue? v = some kind)
    (w : Filter.Value) (row : Json.Row) :
    (beyondOperators s w).any (beyondHolds s v row)
      = decide (compareValues s v (valueAt row s.field) = .lt) := by
  have hnull : (valueAt row s.field).isNull = true →
      compareValues s v (valueAt row s.field)
        = if s.effectiveNulls = .first then .gt else .lt := by
    intro h
    have hval : valueAt row s.field = .null := by
      cases hval : valueAt row s.field <;> rw [hval] at h <;> first | rfl | cases h
    rw [hval, compareValues_null_right (isNull_eq_false_of_ofValue? hv)]
  cases hd : s.direction <;> cases hn : s.effectiveNulls <;>
    cases hisNull : (valueAt row s.field).isNull <;> simp_all [beyondHolds, beyondOperators]

theorem judges_beyond (hx : x.IsPlain s.field) {w : Filter.Value} (hw : w.isScalar = true)
    (hnull : w ≠ .null) (hrow : Comparable w.toJson (valueAt row s.field)) :
    x.Judges (.node [] [] [(s.field, .comparison (beyondOperators s w))]) row
      (decide (compareValues s w.toJson (valueAt row s.field) = .lt)) := by
  obtain ⟨kind, hk, hv, hrow⟩ := hrow
  have hv := ofValue?_of_admits (toJson_ne_null hnull) hv
  rw [← any_beyondHolds hv w row]
  have hbeyond := ordered_beyond hk hv hrow s
  refine judges_column hx.noRelation (beyondOperators_ne_nil s w) ?_
  rw [show (Dict.find? row s.field).getD .null = valueAt row s.field from rfl]
  have his : Scoped.holdsOperator x.registry x.entity s.field (valueAt row s.field) "is" .null
      = .ok (beyondHolds s w.toJson row ("is", .null)) := hx.holdsOperator_is _
  have hgt : s.direction = .asc → Scoped.holdsOperator x.registry x.entity s.field
      (valueAt row s.field) "gt" w = .ok (beyondHolds s w.toJson row ("gt", w)) := by
    intro hd
    rw [hd] at hbeyond
    rw [hx.holdsOperator_gt _ hw, hbeyond]
    rfl
  have hlt : s.direction = .desc → Scoped.holdsOperator x.registry x.entity s.field
      (valueAt row s.field) "lt" w = .ok (beyondHolds s w.toJson row ("lt", w)) := by
    intro hd
    rw [hd] at hbeyond
    rw [hx.holdsOperator_lt _ hw, hbeyond]
    rfl
  cases hd : s.direction <;> cases hn : s.effectiveNulls <;>
    simp [beyondOperators, his, hgt, hlt, hd, hn]

/-- The filter of the rows that come after a value selects them; without one there are none. -/
theorem comesAfter?_spec (hx : x.IsPlain s.field) {w : Filter.Value} (hw : w.isScalar = true) :
    match Filter.comesAfter? s w with
    | some f => x.Accepts f ∧ ∀ row, Comparable w.toJson (valueAt row s.field) →
        x.Judges f row (decide (compareValues s w.toJson (valueAt row s.field) = .lt))
    | none => ∀ row : Json.Row, compareValues s w.toJson (valueAt row s.field) ≠ .lt := by
  obtain ⟨-, hgt, hlt, his, hisNot⟩ := hx.tests hw
  by_cases hnull : w = .null
  · subst hnull
    rw [comesAfter?_null, show Filter.Value.null.toJson = .null from rfl]
    cases hn : s.effectiveNulls with
    | first =>
      refine ⟨accepts_column hx.noRelation (List.forall_mem_singleton.2 hisNot), fun row _ => ?_⟩
      have hjudge : decide (compareValues s .null (valueAt row s.field) = .lt)
          = !(valueAt row s.field).isNull := by
        cases hrow : (valueAt row s.field).isNull with
        | true => rw [compareValues, hrow]; rfl
        | false => rw [compareValues_null_left hrow, hn]; rfl
      rw [hjudge]
      exact judges_onField hx.noRelation (hx.holdsOperator_isNot _)
    | last =>
      intro row
      cases hrow : (valueAt row s.field).isNull with
      | true => rw [compareValues, hrow]; exact Ordering.noConfusion
      | false => rw [compareValues_null_left hrow, hn]; decide
  · rw [comesAfter?_of_ne_null hnull]
    refine ⟨accepts_column hx.noRelation ?_, fun row hrow => judges_beyond hx hw hnull hrow⟩
    cases hd : s.direction <;> cases hn : s.effectiveNulls <;>
      simp [beyondOperators, hgt, hlt, his, hd, hn]

end

/-! ### The seek -/

open SortOrder

/-- The values of a row in the fields of a sort. -/
def keysOf (r : Json.Row) (sort : SortOrder) : List KeyField :=
  sort.map fun s => ⟨s.field, valueAt r s.field⟩

theorem keysOf_cons (row : Json.Row) (s : SortField) (sort : SortOrder) :
    keysOf row (s :: sort) = ⟨s.field, valueAt row s.field⟩ :: keysOf row sort := rfl

theorem keyScalar_of_admits {v : Json.Value} (hk : kind.IsExact) (hv : kind.Admits v)
    (field : String) :
    ∃ w, Filter.keyScalar ⟨field, v⟩ = .ok w ∧ w.isScalar = true ∧ w.toJson = v := by
  obtain ⟨w, hw, hscalar, hjson⟩ := exists_scalar hk hv
  exact ⟨w, by simp only [Filter.keyScalar, hw, hscalar, if_true], hscalar, hjson⟩

/-- A term is judged on every row that is judged by the filters it is made of. -/
theorem term_spec {agreed : List Filter} {after : Filter} (hagreed : ∀ f ∈ agreed, x.Accepts f)
    (hafter : x.Accepts after) :
    x.Accepts (if agreed.isEmpty then after else .allOf (agreed ++ [after])) ∧
      ∀ row, (∀ f ∈ agreed, x.Decides f row) → x.Decides after row →
        x.Judges (if agreed.isEmpty then after else .allOf (agreed ++ [after])) row
          (agreed.all (fun f => x.verdict f row) && x.verdict after row) := by
  cases hempty : agreed.isEmpty with
  | true =>
    rw [List.isEmpty_iff] at hempty
    subst hempty
    exact ⟨hafter, fun row _ h => h⟩
  | false =>
    rw [if_neg Bool.false_ne_true]
    have hmem : ∀ f ∈ agreed ++ [after], f ∈ agreed ∨ f = after := by simp
    refine ⟨accepts_allOf fun f hf => (hmem f hf).elim (hagreed f) (· ▸ hafter),
      fun row hdecides h => ?_⟩
    have hjudges : ∀ f ∈ agreed ++ [after], x.Judges f row (x.verdict f row) :=
      fun f hf => (hmem f hf).elim (hdecides f) (· ▸ h)
    have hall := judges_allOf hjudges
    rwa [List.all_append, List.all_cons, List.all_nil, Bool.and_true] at hall

theorem seekTerms_cons {agreed terms : List Filter} {k : KeyField} {w : Filter.Value}
    {sort : SortOrder} {keys : List KeyField} (hkey : Filter.keyScalar k = .ok w)
    (hterms : Filter.seekTerms (agreed ++ [Filter.agreesWith s.field w]) sort keys = .ok terms) :
    Filter.seekTerms agreed (s :: sort) (k :: keys)
      = .ok (match Filter.comesAfter? s w with
        | none => terms
        | some after =>
          (if agreed.isEmpty then after else .allOf (agreed ++ [after])) :: terms) := by
  rw [Filter.seekTerms, hkey, ok_bind, hterms, ok_bind]
  cases Filter.comesAfter? s w <;> rfl

theorem decide_compareRows_cons (s : SortField) (sort : SortOrder) (r row : Json.Row) :
    decide (compareRows (s :: sort) r row = .lt)
      = (decide (compareValues s (valueAt r s.field) (valueAt row s.field) = .lt) ||
        (decide (compareValues s (valueAt r s.field) (valueAt row s.field) = .eq) &&
          decide (compareRows sort r row = .lt))) := by
  rw [compareRows, Bool.eq_iff_iff]
  simp [Ordering.then_eq_lt]

/-- The terms of a seek are true of the rows that agree with what went before and come after. -/
theorem seekTerms_spec : ∀ (sort : SortOrder) (agreed : List Filter),
    (∀ s ∈ sort, x.IsPlain s.field) → HasKinds sort [r] → (∀ f ∈ agreed, x.Accepts f) →
    ∃ terms, Filter.seekTerms agreed sort (keysOf r sort) = .ok terms ∧
      (∀ t ∈ terms, x.Accepts t) ∧
      ∀ row, HasKinds sort [r, row] → (∀ f ∈ agreed, x.Decides f row) →
        (∀ t ∈ terms, x.Decides t row) ∧
        terms.any (fun t => x.verdict t row)
          = (agreed.all (fun f => x.verdict f row) && decide (compareRows sort r row = .lt))
  | [], agreed, _, _, _ => ⟨[], rfl, List.forall_mem_nil _, fun row _ _ =>
      ⟨List.forall_mem_nil _, by simp [compareRows]⟩⟩
  | s :: sort, agreed, hplain, hkinds, hagreed => by
    have hx := hplain s (List.mem_cons_self ..)
    obtain ⟨kind, hk, hr⟩ := hkinds s (List.mem_cons_self ..)
    obtain ⟨w, hkey, hw, hjson⟩ := keyScalar_of_admits hk (hr r (List.mem_cons_self ..)) s.field
    have hagreed' : ∀ f ∈ agreed ++ [Filter.agreesWith s.field w], x.Accepts f :=
      List.forall_mem_append.2 ⟨hagreed, List.forall_mem_singleton.2 (accepts_agreesWith hx hw)⟩
    obtain ⟨terms, hterms, haccepts, hjudges⟩ := seekTerms_spec sort
      (agreed ++ [Filter.agreesWith s.field w])
      (fun t ht => hplain t (List.mem_cons_of_mem _ ht)) hkinds.tail hagreed'
    have hspec := comesAfter?_spec (x := x) hx hw
    -- what the terms of the other fields say, and how the field itself compares
    have hrest : ∀ row, HasKinds (s :: sort) [r, row] → (∀ f ∈ agreed, x.Decides f row) →
        Comparable w.toJson (valueAt row s.field) ∧ (∀ t ∈ terms, x.Decides t row) ∧
        terms.any (fun t => x.verdict t row) = (agreed.all (fun f => x.verdict f row) &&
          (decide (compareValues s w.toJson (valueAt row s.field) = .eq) &&
            decide (compareRows sort r row = .lt))) := by
      intro row hrow hdecides
      obtain ⟨kind, hk, hvalues⟩ := hrow s (List.mem_cons_self ..)
      have hcomparable : Comparable w.toJson (valueAt row s.field) :=
        ⟨kind, hk, hjson ▸ hvalues r (by simp), hvalues row (by simp)⟩
      have hagree := judges_agreesWith hx hw hcomparable
      obtain ⟨hdec, hany⟩ := hjudges row hrow.tail
        (List.forall_mem_append.2 ⟨hdecides, List.forall_mem_singleton.2 hagree.decides⟩)
      refine ⟨hcomparable, hdec, ?_⟩
      rw [hany, List.all_append, List.all_cons, List.all_nil, hagree.verdict_eq, Bool.and_true,
        Bool.and_assoc]
    rw [keysOf_cons, seekTerms_cons hkey hterms]
    refine ⟨_, rfl, ?_⟩
    cases hafter : Filter.comesAfter? s w with
    | none =>
      rw [hafter] at hspec
      refine ⟨haccepts, fun row hrow hdecides => ?_⟩
      obtain ⟨-, hdec, hany⟩ := hrest row hrow hdecides
      exact ⟨hdec, by
        rw [hany, decide_compareRows_cons, ← hjson, decide_eq_false (hspec row), Bool.false_or]⟩
    | some after =>
      rw [hafter] at hspec
      obtain ⟨hterm, hjudge⟩ := term_spec hagreed hspec.1
      refine ⟨List.forall_mem_cons.2 ⟨hterm, haccepts⟩, fun row hrow hdecides => ?_⟩
      obtain ⟨hcomparable, hdec, hany⟩ := hrest row hrow hdecides
      have hafterj := hspec.2 row hcomparable
      have htermj := hjudge row hdecides hafterj.decides
      refine ⟨List.forall_mem_cons.2 ⟨htermj.decides, hdec⟩, ?_⟩
      rw [List.any_cons, htermj.verdict_eq, hafterj.verdict_eq, hany, decide_compareRows_cons,
        ← hjson, ← Bool.and_or_distrib_left]

theorem nothingAfter_spec {s : SortField} (hx : x.IsPlain s.field) (sort : SortOrder) :
    x.Accepts (Filter.nothingAfter (s :: sort)) ∧
      ∀ row, x.Judges (Filter.nothingAfter (s :: sort)) row false := by
  obtain ⟨-, -, -, his, hisNot⟩ := hx.tests (show Filter.Value.null.isScalar = true from rfl)
  have hmem : ∀ f ∈ [Filter.onField s.field .is .null, .onField s.field .isNot .null],
      f = .onField s.field .is .null ∨ f = .onField s.field .isNot .null := by simp
  constructor
  · refine accepts_allOf fun f hf => ?_
    rcases hmem f hf with rfl | rfl
    · exact accepts_column hx.noRelation (List.forall_mem_singleton.2 his)
    · exact accepts_column hx.noRelation (List.forall_mem_singleton.2 hisNot)
  · intro row
    have hnull : x.Judges (.onField s.field .is .null) row (valueAt row s.field).isNull :=
      judges_onField hx.noRelation (hx.holdsOperator_is _)
    have hnotNull : x.Judges (.onField s.field .isNot .null) row
        (!(valueAt row s.field).isNull) :=
      judges_onField hx.noRelation (hx.holdsOperator_isNot _)
    have hboth : x.Judges (Filter.nothingAfter (s :: sort)) row
        ([Filter.onField s.field .is .null, .onField s.field .isNot .null].all
          fun f => x.verdict f row) := by
      refine judges_allOf fun f hf => ?_
      rcases hmem f hf with rfl | rfl
      · exact hnull.decides
      · exact hnotNull.decides
    rw [List.all_cons, List.all_cons, List.all_nil, hnull.verdict_eq, hnotNull.verdict_eq,
      Bool.and_true, Bool.and_not_self] at hboth
    exact hboth

/-- The filter of a seek is accepted and selects the rows that come after the row of the keys. -/
theorem seek_spec {sort : SortOrder} (hne : sort ≠ []) (hplain : ∀ s ∈ sort, x.IsPlain s.field)
    (hkinds : HasKinds sort [r]) :
    ∃ f, Filter.seek sort (keysOf r sort) = .ok f ∧ x.Accepts f ∧
      ∀ row, HasKinds sort [r, row] →
        x.Judges f row (decide (compareRows sort r row = .lt)) := by
  obtain ⟨terms, hterms, haccepts, hjudges⟩ := seekTerms_spec sort [] hplain hkinds
    (List.forall_mem_nil _)
  rw [Filter.seek, hterms, ok_bind]
  match terms with
  | [] =>
    obtain ⟨s, rest, rfl⟩ := List.exists_cons_of_ne_nil hne
    obtain ⟨hf, hnothing⟩ := nothingAfter_spec (hplain s (List.mem_cons_self ..)) rest
    refine ⟨_, rfl, hf, fun row hrow => ?_⟩
    obtain ⟨-, hany⟩ := hjudges row hrow (List.forall_mem_nil _)
    rw [List.any_nil, List.all_nil, Bool.true_and] at hany
    rw [← hany]
    exact hnothing row
  | [term] =>
    refine ⟨term, rfl, haccepts term (List.mem_singleton_self _), fun row hrow => ?_⟩
    obtain ⟨hdec, hany⟩ := hjudges row hrow (List.forall_mem_nil _)
    rw [List.any_cons, List.any_nil, Bool.or_false, List.all_nil, Bool.true_and] at hany
    rw [← hany]
    exact hdec term (List.mem_singleton_self _)
  | term :: term' :: rest =>
    refine ⟨_, rfl, accepts_anyOf haccepts, fun row hrow => ?_⟩
    obtain ⟨hdec, hany⟩ := hjudges row hrow (List.forall_mem_nil _)
    rw [List.all_nil, Bool.true_and] at hany
    rw [← hany]
    exact judges_anyOf (List.cons_ne_nil _ _) hdec

/-- The values that a cursor takes from a row make a filter, and of the rows that are comparable
with that row it selects just those that come after it in the sort. -/
theorem seek_selects_after {sort : SortOrder} (hne : sort ≠ [])
    (hplain : ∀ s ∈ sort, x.IsPlain s.field) (hkinds : HasKinds sort [r]) :
    ∃ keys f, Cursor.ofRow r sort = .keyset keys ∧ Filter.seek sort keys = .ok f ∧
      ∀ other, HasKinds sort [r, other] → (f.scope x.catalog x.entity).holds x.registry other
        = .ok (decide (compareRows sort r other = .lt)) := by
  obtain ⟨f, hseek, -, hjudges⟩ := seek_spec hne hplain hkinds
  exact ⟨keysOf r sort, f, rfl, hseek, hjudges⟩

/-- The second mention of a field does not matter. Rows without a score come last, and after a row
without a title come those of its score that have one. -/
theorem seek_selects_after_nulls :
    let e : Entity := ⟨"task", "tasks", none, ["id"], [⟨"score", .integer⟩, ⟨"title", .text⟩], []⟩
    let sort : SortOrder :=
      [⟨"score", .desc, some .last⟩, ⟨"score", .asc, some .first⟩, ⟨"title", .asc, some .first⟩]
    let r : Json.Row := [("score", .int 5), ("title", .null)]
    let others : List Json.Row := [[("score", .int 7)], [("score", .int 5)],
      [("score", .int 5), ("title", .str "a")], [("score", .int 3), ("title", .null)], []]
    ∃ keys f, Cursor.ofRow r sort = .keyset keys ∧ Filter.seek sort keys = .ok f ∧
      others.map (fun other => (f.scope ⟨[e]⟩ e).holds .empty other)
        = [.ok false, .ok false, .ok true, .ok true, .ok true] := by
  intro e sort r others
  have hkinds : HasKinds sort (r :: others) := by
    have hscore : ∀ row ∈ r :: others, SortKind.integer.Admits (valueAt row "score") := by
      simp [r, others, valueAt, Dict.find?, SortKind.admits_int, Json.fitsInt64, Json.minInt64,
        Json.maxInt64]
    have htitle : ∀ row ∈ r :: others, SortKind.text.Admits (valueAt row "title") := by
      simp [r, others, valueAt, Dict.find?]
    exact List.forall_mem_cons.2 ⟨⟨.integer, trivial, hscore⟩, List.forall_mem_cons.2
      ⟨⟨.integer, trivial, hscore⟩, List.forall_mem_singleton.2 ⟨.text, trivial, htitle⟩⟩⟩
  have hplain : ∀ s ∈ sort, IsPlain ⟨⟨[e]⟩, .empty, e⟩ s.field :=
    fun s _ => isPlain_of_empty rfl s.field
  obtain ⟨keys, f, hkeys, hf, hselects⟩ := seek_selects_after (List.cons_ne_nil _ _) hplain
    (hkinds.subset (List.cons_subset_cons r (List.nil_subset others)))
  refine ⟨keys, f, hkeys, hf, ?_⟩
  have hmap : ∀ other ∈ others, (f.scope ⟨[e]⟩ e).holds .empty other
      = .ok (decide (compareRows sort r other = .lt)) := by
    intro other hother
    refine hselects other (hkinds.subset (List.cons_subset_cons r ?_))
    exact List.cons_subset.2 ⟨hother, List.nil_subset _⟩
  rw [List.map_congr_left hmap]
  rfl

end Scope
end RowQuery
