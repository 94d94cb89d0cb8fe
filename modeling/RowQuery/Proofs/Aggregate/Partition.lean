import Mathlib.Data.List.Lex
import RowQuery.Proofs.Aggregate.Columns
import RowQuery.Proofs.Aggregate.Extremes
import RowQuery.Proofs.Aggregate.Groups
import RowQuery.Proofs.Filter.Agreement
import RowQuery.Proofs.Store
import RowQuery.Proofs.Text.PatternSize
import RowQuery.Service
/-!
Aggregates of groups.

The matching rows fall into classes by their values in the grouping fields. There is one response
for each class, the classes in the order of these values, and what it counts and which extremes it
finds depends on the class alone. So the responses do not depend on the order of the table, apart
from sums, where floats are added in that order.
-/

namespace RowQuery

open SortOrder
open Json.Value (Before)

namespace Aggregate

variable {s : Spec} {rows rows' : List Json.Row} {key : List Json.Value}

/-! ### What a response says -/

/-- The values of a row in the grouping fields. -/
def groupKey (s : Spec) (row : Json.Row) : List Json.Value := s.groupBy.map (valueAt row)

/-- The rows with some values in the grouping fields. -/
def rowsWith (s : Spec) (key : List Json.Value) (rows : List Json.Row) : List Json.Row :=
  rows.filter fun row => decide (groupKey s row = key)

/-- What a response says of the rows with some values in the grouping fields: these values, how many
values each counted field has apart from null, and the least and the greatest of them. -/
structure Reports (s : Spec) (rows : List Json.Row) (key : List Json.Value) (r : Response) :
    Prop where
  groupBy : s.groupBy.map (Dict.find? (r.part .groupBy)) = key.map some
  count : ∀ field ∈ s.count, Dict.find? (r.part (.call .count)) field
    = some (.nat ((rowsWith s key rows).countP fun row => !(valueAt row field).isNull))
  min : ∀ field ∈ s.min, ∃ v, Dict.find? (r.part (.call .min)) field = some v ∧
    IsFirst Before (valuesAt (rowsWith s key rows) field) v
  max : ∀ field ∈ s.max, ∃ v, Dict.find? (r.part (.call .max)) field = some v ∧
    IsFirst (fun a b => Before b a) (valuesAt (rowsWith s key rows) field) v
  isSome_iff : ∀ p field, (Dict.find? (r.part p) field).isSome = true ↔ field ∈ s.part p

/-- The values of a field are those of its values in the rows that are not null. -/
theorem valuesAt_eq (rows : List Json.Row) (field : String) :
    valuesAt rows field = (rows.map fun row => valueAt row field).filter fun v => !v.isNull := by
  induction rows with
  | nil => rfl
  | cons row rest ih =>
    rw [valuesAt] at ih ⊢
    rw [List.map_cons, List.filter_cons, ← ih, valueAt]
    cases h : Dict.find? row field with
    | none => simp [h, Json.Value.isNull]
    | some v => simp [h, List.filter_cons]

theorem length_valuesAt (rows : List Json.Row) (field : String) :
    (valuesAt rows field).length = rows.countP fun row => !(valueAt row field).isNull := by
  rw [valuesAt_eq, ← List.countP_eq_length_filter, List.countP_map]
  rfl

theorem perm_valuesAt (h : rows.Perm rows') (field : String) :
    (valuesAt rows field).Perm (valuesAt rows' field) :=
  (h.filterMap _).filter _

theorem agreeOn_groupSort_iff {x y : Json.Row} :
    AgreeOn (groupSort s) x y ↔ groupKey s x = groupKey s y := by
  rw [AgreeOn, groupSort, List.forall_mem_map, groupKey, groupKey, List.map_inj_left]
  rfl

/-- The grouping fields, and those with a least or a greatest value, each hold null or values of one
kind in some rows. -/
def HoldKinds (s : Spec) (rows : List Json.Row) : Prop :=
  HasKinds ((s.groupBy ++ s.min ++ s.max).map .asc) rows

theorem HoldKinds.groupSort (h : HoldKinds s rows) : HasKinds (groupSort s) rows := by
  intro f hf
  obtain ⟨field, hfield, rfl⟩ := List.mem_map.1 hf
  exact h _ (List.mem_map_of_mem (by simp [hfield]))

theorem HoldKinds.exists_kind (h : HoldKinds s rows) {field : String}
    (hfield : field ∈ s.min ++ s.max) : ∃ kind : SortKind, kind.IsExact ∧
      ∀ v ∈ valuesAt rows field, SortKind.ofValue? v = some kind := by
  have hmem : field ∈ s.groupBy ++ s.min ++ s.max := by
    rw [List.append_assoc]
    exact List.mem_append_right _ hfield
  obtain ⟨kind, hk, hrows⟩ := h (.asc field) (List.mem_map_of_mem hmem)
  refine ⟨kind, hk, fun v hv => ?_⟩
  rw [valuesAt_eq, List.mem_filter, List.mem_map] at hv
  obtain ⟨⟨row, hrow, rfl⟩, hnull⟩ := hv
  refine (hrows row hrow).resolve_left fun h => ?_
  rw [show valueAt row field = .null from h] at hnull
  cases hnull

/-- Two responses have the same values but for sums and averages. -/
def Response.AgreeBesidesSums (r r' : Response) : Prop :=
  ∀ p, p ≠ .call .sum → p ≠ .call .avg → ∀ field,
    Dict.find? (r.part p) field = Dict.find? (r'.part p) field

/-- What a response says is determined by the rows, in whatever order. -/
theorem Reports.agree {r r' : Response} (h : Reports s rows key r) (h' : Reports s rows' key r')
    (hperm : rows.Perm rows') : r.AgreeBesidesSums r' := by
  have hwith : (rowsWith s key rows).Perm (rowsWith s key rows') := hperm.filter _
  intro p hsum havg field
  by_cases hfield : field ∈ s.part p
  · rcases p with _ | f
    · have hfind := h.groupBy.trans h'.groupBy.symm
      exact List.map_inj_left.1 hfind field hfield
    · cases f with
      | sum => exact absurd rfl hsum
      | avg => exact absurd rfl havg
      | count => rw [h.count field hfield, h'.count field hfield, hwith.countP_eq]
      | min =>
        obtain ⟨v, hv, hfirst⟩ := h.min field hfield
        obtain ⟨v', hv', hfirst'⟩ := h'.min field hfield
        rw [hv, hv', (hfirst.perm (perm_valuesAt hwith field)).eq Before.asymm hfirst']
      | max =>
        obtain ⟨v, hv, hfirst⟩ := h.max field hfield
        obtain ⟨v', hv', hfirst'⟩ := h'.max field hfield
        rw [hv, hv', (hfirst.perm (perm_valuesAt hwith field)).eq Before.asymm hfirst']
  · have hnone : ∀ {r'' : Response} {rows''}, Reports s rows'' key r'' →
        Dict.find? (r''.part p) field = none := by
      intro r'' rows'' h''
      rw [← Option.not_isSome_iff_eq_none, h''.isSome_iff]
      exact hfield
    rw [hnone h, hnone h']

theorem forall₂_agree (hperm : rows.Perm rows') {keys : List (List Json.Value)}
    {rs rs' : List Response} (h : List.Forall₂ (Reports s rows) keys rs)
    (h' : List.Forall₂ (Reports s rows') keys rs') :
    List.Forall₂ Response.AgreeBesidesSums rs rs' := by
  induction h generalizing rs' with
  | nil =>
    cases h'
    exact .nil
  | cons hr _ ih =>
    cases h' with
    | cons hr' hrest' => exact .cons (hr.agree hr' hperm) (ih hrest')

/-! ### The responses of all groups -/

section
variable {sorted : List Json.Row} {gs : List (Json.Row × List Json.Row)}
  {g : Json.Row × List Json.Row}

/-- A group has the rows with the same values in the grouping fields as its first one. -/
theorem perm_rowsWith (hk : HasKinds (groupSort s) rows) (hperm : sorted.Perm rows)
    (hgs : Partitions (groupSort s) sorted gs) (hg : g ∈ gs) :
    g.2.Perm (rowsWith s (groupKey s g.1) rows) := by
  have hfilter : sorted.filter (agrees (groupSort s) g.1)
      = sorted.filter fun row => decide (groupKey s row = groupKey s g.1) := by
    refine List.filter_congr fun row hrow => decide_eq_decide.2 ?_
    have hkinds : HasKinds (groupSort s) [g.1, row] := hk.subset (by
      simp [hperm.mem_iff.1 (hgs.first_mem g hg), hperm.mem_iff.1 hrow])
    rw [compareRows_eq_iff hkinds, agreeOn_groupSort_iff, eq_comm]
  rw [hgs.rows_eq g hg, hfilter]
  exact hperm.filter _

/-- A response with the values of a group reports on its rows. -/
theorem reports_of_group (hk : HoldKinds s rows) (hperm : sorted.Perm rows)
    (hgs : Partitions (groupSort s) sorted gs) (hg : g ∈ gs) {r : Response}
    (hcell : ∀ p, ∀ field ∈ s.part p, Dict.find? (r.part p) field = some (cell g p field))
    (hnone : ∀ p, ∀ field ∉ s.part p, Dict.find? (r.part p) field = none) :
    Reports s rows (groupKey s g.1) r := by
  have hgroup := perm_rowsWith hk.groupSort hperm hgs hg
  have hsub : g.2 ⊆ rows := fun row hrow => (List.mem_filter.1 (hgroup.mem_iff.1 hrow)).1
  have hkind : ∀ field ∈ s.min ++ s.max, ∃ kind : SortKind, kind.IsExact ∧
      ∀ v ∈ valuesAt g.2 field, SortKind.ofValue? v = some kind :=
    fun field => HoldKinds.exists_kind (hk.subset hsub)
  constructor
  case groupBy =>
    rw [groupKey, List.map_map]
    exact List.map_congr_left fun field hfield => hcell .groupBy field hfield
  case count =>
    intro field hfield
    rw [hcell (.call .count) field hfield, ← hgroup.countP_eq, ← length_valuesAt]
    rfl
  case min =>
    intro field hfield
    obtain ⟨kind, hkind, hvalues⟩ := hkind field (List.mem_append_left _ hfield)
    exact ⟨_, hcell (.call .min) field hfield,
      (isFirst_min_and_max hkind hvalues).1.perm (perm_valuesAt hgroup field)⟩
  case max =>
    intro field hfield
    obtain ⟨kind, hkind, hvalues⟩ := hkind field (List.mem_append_right _ hfield)
    exact ⟨_, hcell (.call .max) field hfield,
      (isFirst_min_and_max hkind hvalues).2.perm (perm_valuesAt hgroup field)⟩
  case isSome_iff =>
    intro p field
    by_cases hfield : field ∈ s.part p
    · exact iff_of_true (by rw [hcell p field hfield]; rfl) hfield
    · exact iff_of_false (by rw [hnone p field hfield]; exact Bool.false_ne_true) hfield

end

/-- There is a response for each group, which reports on its rows. -/
theorem exists_responses (hs : ∀ p, ∀ field ∈ s.part p, IsReadable field) :
    ∀ {gs : List (Json.Row × List Json.Row)}, (∀ g ∈ gs, ∀ r : Response,
      (∀ p, ∀ field ∈ s.part p, Dict.find? (r.part p) field = some (cell g p field)) →
      (∀ p, ∀ field ∉ s.part p, Dict.find? (r.part p) field = none) →
      Reports s rows (groupKey s g.1) r) →
    ∃ rs, Service.responses (gs.map (groupRow s)) = .ok rs ∧
      List.Forall₂ (Reports s rows) (gs.map fun g => groupKey s g.1) rs
  | [], _ => ⟨[], rfl, .nil⟩
  | g :: gs, h => by
    obtain ⟨hg, hgs⟩ := List.forall_mem_cons.1 h
    obtain ⟨r, hr, hcell, hnone⟩ := exists_ofRow_groupRow hs g
    obtain ⟨rs, hrs, hreports⟩ := exists_responses hs hgs
    refine ⟨r :: rs, ?_, .cons (hg r hcell hnone) hreports⟩
    rw [List.map_cons, Service.responses, hr, hrs]
    rfl

/-- Rows are aggregated into one response for each class, in the order of the classes. -/
theorem exists_responses_of_rows (hs : ∀ p, ∀ field ∈ s.part p, IsReadable field)
    (hgroupBy : s.groupBy ≠ []) (hk : HoldKinds s rows) :
    ∃ resultRows keys rs, resultRows? s rows = some resultRows ∧
      Service.responses resultRows = .ok rs ∧ keys.Pairwise (List.Lex Before) ∧
      (∀ key, key ∈ keys ↔ ∃ row ∈ rows, groupKey s row = key) ∧
      List.Forall₂ (Reports s rows) keys rs := by
  have hperm : (sortRows (groupSort s) rows).Perm rows := perm_sortRows _ _
  have hsorted : HasKinds (groupSort s) (sortRows (groupSort s) rows) :=
    hk.groupSort.subset fun row hrow => hperm.mem_iff.1 hrow
  have hgs := partitions_groups hsorted (ascends_sortRows hk.groupSort)
  obtain ⟨rs, hrs, hreports⟩ := exists_responses hs fun g hg r hcell hnone =>
    reports_of_group hk hperm hgs hg hcell hnone
  have hresult : resultRows? s rows
      = some ((groups (groupSort s) (sortRows (groupSort s) rows)).map (groupRow s)) := by
    rw [resultRows?, if_neg (by simp [hgroupBy]), arrange?_of_hasKinds hk.groupSort]
    rfl
  refine ⟨_, _, rs, hresult, hrs, ?_, fun key => ?_, hreports⟩
  · rw [List.pairwise_map]
    refine hgs.ascending.imp_of_mem fun {g h} hg hh hlt => ?_
    have hkinds : HasKinds (groupSort s) [g.1, h.1] :=
      hsorted.subset (by simp [hgs.first_mem g hg, hgs.first_mem h hh])
    exact (compareRows_asc_eq_lt_iff hkinds).1 hlt
  · rw [List.mem_map]
    constructor
    · rintro ⟨g, hg, rfl⟩
      exact ⟨g.1, hperm.mem_iff.1 (hgs.first_mem g hg), rfl⟩
    · rintro ⟨row, hrow, rfl⟩
      obtain ⟨g, hg, hagrees⟩ := hgs.complete row (hperm.mem_iff.2 hrow)
      have hkinds : HasKinds (groupSort s) [g.1, row] :=
        hsorted.subset (by simp [hgs.first_mem g hg, hperm.mem_iff.2 hrow])
      exact ⟨g, hg, agreeOn_groupSort_iff.1
        ((compareRows_eq_iff hkinds).1 (of_decide_eq_true hagrees))⟩

/-- Of two ascending lists with the same tuples there is only one. -/
theorem eq_of_ascending {keys keys' : List (List Json.Value)}
    (h : keys.Pairwise (List.Lex Before)) (h' : keys'.Pairwise (List.Lex Before))
    (hmem : ∀ key, key ∈ keys ↔ key ∈ keys') : keys = keys' := by
  have hasymm : ∀ {a b : List Json.Value}, List.Lex Before a b → ¬List.Lex Before b a :=
    fun {a b} => (inferInstance : Std.Asymm (List.Lex Before)).asymm a b
  have hne : ∀ {a b : List Json.Value}, List.Lex Before a b → a ≠ b := by
    rintro a b hab rfl
    exact hasymm hab hab
  have hperm : keys.Perm keys' :=
    (List.perm_ext_iff_of_nodup (h.imp hne) (h'.imp hne)).2 hmem
  exact hperm.eq_of_pairwise (fun a b _ _ hab hba => absurd hba (hasymm hab)) h h'

end Aggregate

namespace AggregateRequest

open Aggregate

/-- Requests for aggregates of groups that are compiled with the built-in operators, and whose
columns can all be read back. -/
structure Groups (r : AggregateRequest) (c : Compiler) (e : Entity) : Prop where
  found : c.catalog.find? r.entity = some e
  builtIn : c.registry.HoldsBuiltIn
  accepted : (Scope.mk c.catalog c.registry e).Accepts r.filter
  groupBy : r.spec.groupBy ≠ []
  hasFunctions : r.spec.hasFunctions = true
  readable : ∀ p, ∀ field ∈ r.spec.part p, IsReadable field

variable {r : AggregateRequest} {c : Compiler} {e : Entity}

/-- A compiler with a store that resolves filters as it does. -/
def service (c : Compiler) (tables : Dict (List Json.Row)) : Service := ⟨c, c.storeOf tables⟩

theorem Groups.name_eq (h : r.Groups c e) : e.name = r.entity :=
  (Catalog.mem_of_find? h.found).2

/-- The filter selects rows whatever the table, so from rows in another order it selects the same
ones. -/
theorem Groups.exists_matching (h : r.Groups c e) (hf : c.Fits e e.tableAlias r.filter) :
    ∃ p : Json.Row → Bool, ∀ tables, (c.storeOf tables).matching r.entity r.filter
      = .ok (((c.storeOf tables).table r.entity).filter p) := by
  obtain ⟨condition, hcondition⟩ := h.accepted
  have hrows := Compiler.rows_eq_ok.2 ⟨condition, hcondition, rfl⟩
  have hmatching := Compiler.exists_matching_eq_filter h.builtIn h.found hrows hf
  rwa [h.name_eq] at hmatching

theorem Groups.aggregate_eq_bind_matching (h : r.Groups c e) (tables : Dict (List Json.Row)) :
    (service c tables).aggregate r = (do
      let matching ← ((c.storeOf tables).matching r.entity r.filter).mapError .execution
      let rows ← Service.executed (Store.ordered (resultRows? r.spec matching))
      Service.compiled (Service.responses rows)) := by
  obtain ⟨condition, hcondition⟩ := h.accepted
  have hrows : c.rows e r.filter = .ok
      ⟨e.table, e.tableAlias, (r.filter.scope c.catalog e).joins e.tableAlias, condition⟩ :=
    Compiler.rows_eq_ok.2 ⟨condition, hcondition, rfl⟩
  have hcompiled : ∃ q, c.aggregate r.entity r.filter r.spec = .ok q ∧ q.entity = e.name ∧
      q.filter = r.filter ∧ q.spec = r.spec := by
    rw [Compiler.aggregate, Compiler.entity_eq_ok.2 h.found, ok_bind, h.hasFunctions, if_pos rfl,
      hrows]
    exact ⟨_, rfl, rfl, rfl, rfl⟩
  obtain ⟨q, hq, hentity, hfilter, hspec⟩ := hcompiled
  simp only [Service.aggregate, service, hq, Service.compiled, Service.executed, Except.mapError,
    ok_bind, Store.aggregate, hentity, hfilter, hspec, h.name_eq]
  cases (c.storeOf tables).matching r.entity r.filter <;> rfl

theorem Groups.aggregate_eq (h : r.Groups c e) {tables : Dict (List Json.Row)}
    {matching resultRows : List Json.Row} {rs : List Response}
    (hmatching : (c.storeOf tables).matching r.entity r.filter = .ok matching)
    (hresult : resultRows? r.spec matching = some resultRows)
    (hrs : Service.responses resultRows = .ok rs) :
    (service c tables).aggregate r = .ok rs := by
  simp only [h.aggregate_eq_bind_matching, hmatching, Service.executed, Except.mapError, ok_bind,
    hresult, Store.ordered, hrs, Service.compiled]

/-- Under a filter without a pattern that is too large to be matched, rows are aggregated class by
class: there is one response for each tuple of values that the matching rows have in the grouping
fields, in ascending order of the tuples with null behind all other values, and it reports on the
rows with its tuple. From a table with the same rows in another order the responses are the same,
but for sums and averages. -/
theorem aggregate_partitions (h : r.Groups c e) (hf : c.Fits e e.tableAlias r.filter)
    (tables : Dict (List Json.Row)) :
    ∃ matching, (c.storeOf tables).matching r.entity r.filter = .ok matching ∧
      (HoldKinds r.spec matching →
        ∃ keys responses, (service c tables).aggregate r = .ok responses ∧
          keys.Pairwise (List.Lex Before) ∧
          (∀ key, key ∈ keys ↔ ∃ row ∈ matching, groupKey r.spec row = key) ∧
          List.Forall₂ (Reports r.spec matching) keys responses ∧
          ∀ tables', ((c.storeOf tables).table r.entity).Perm ((c.storeOf tables').table r.entity) →
            ∃ responses', (service c tables').aggregate r = .ok responses' ∧
              List.Forall₂ Response.AgreeBesidesSums responses responses') := by
  obtain ⟨p, hp⟩ := h.exists_matching hf
  refine ⟨_, hp tables, fun hk => ?_⟩
  obtain ⟨resultRows, keys, rs, hresult, hrs, hasc, hkeys, hreports⟩ :=
    exists_responses_of_rows h.readable h.groupBy hk
  refine ⟨keys, rs, h.aggregate_eq (hp tables) hresult hrs, hasc, hkeys, hreports, ?_⟩
  intro tables' htables
  have hperm := htables.filter p
  obtain ⟨resultRows', keys', rs', hresult', hrs', hasc', hkeys', hreports'⟩ :=
    exists_responses_of_rows h.readable h.groupBy
      (hk.subset fun row hrow => hperm.mem_iff.2 hrow)
  obtain rfl : keys = keys' := eq_of_ascending hasc hasc' fun key => by
    rw [hkeys, hkeys']
    exact exists_congr fun row => and_congr_left fun _ => hperm.mem_iff
  exact ⟨rs', h.aggregate_eq (hp tables') hresult' hrs', forall₂_agree hperm hreports hreports'⟩

/-- Of four tasks two are open, one is done, and one is neither. -/
theorem aggregate_partitions_states :
    let e : Entity := ⟨"task", "tasks", none, ["id"], [⟨"id", .integer⟩, ⟨"state", .text⟩], []⟩
    let c : Compiler := ⟨⟨[e]⟩, .empty, .standard⟩
    let r : AggregateRequest := ⟨"task", .empty, ⟨["id"], [], [], ["id"], [], ["state"]⟩⟩
    let row (id : Int) (state : Json.Value) : Json.Row := [("id", .int id), ("state", state)]
    let rows := [row 1 (.str "open"), row 2 .null, row 3 (.str "done"), row 4 (.str "open")]
    ∃ responses, (service c [("task", rows)]).aggregate r = .ok responses ∧
      List.Forall₂ (Reports r.spec rows) [[.str "done"], [.str "open"], [.null]] responses := by
  intro e c r row rows
  have hscope : r.filter.scope c.catalog e = .node e [] [] [] := Scope.scope_empty ..
  have hsites : (r.filter.scope c.catalog e).sites e.tableAlias = [] := by
    rw [hscope]
    rfl
  have haccepted : (r.filter.scope c.catalog e).condition .empty e.tableAlias = .ok none := by
    rw [hscope]
    rfl
  have hgroups : r.Groups c e :=
    { found := rfl
      builtIn := Registry.empty_holdsBuiltIn
      accepted := ⟨_, haccepted⟩
      groupBy := List.cons_ne_nil _ _
      hasFunctions := rfl
      readable := by
        rintro (_ | f) <;> try cases f
        all_goals simp [r, Spec.part, Spec.fields, IsReadable] }
  have hfits : c.Fits e e.tableAlias r.filter := by
    constructor
    · rw [Scoped.InRange, hsites]; exact List.forall_mem_nil _
    · rw [Scoped.PatternsFit, hsites]; exact List.forall_mem_nil _
  have hmatched : (c.storeOf [("task", rows)]).matching r.entity r.filter = .ok rows :=
    Store.matching_empty (show c.catalog.find? "task" = some e from rfl)
  have hk : HoldKinds r.spec rows := by
    refine List.forall_mem_cons.2 ⟨⟨.text, trivial, ?_⟩, List.forall_mem_singleton.2
      ⟨.integer, trivial, ?_⟩⟩
    · simp [rows, row, valueAt, Dict.find?, SortField.asc]
    · simp [rows, row, valueAt, Dict.find?, SortField.asc, SortKind.admits_int, Json.fitsInt64,
        Json.minInt64, Json.maxInt64]
  obtain ⟨matching, hmatching, hresponses⟩ := aggregate_partitions hgroups hfits [("task", rows)]
  obtain rfl := Except.ok.inj (hmatched.symm.trans hmatching)
  obtain ⟨keys, responses, haggregate, hasc, hkeys, hreports, -⟩ := hresponses hk
  have hkeys' : keys = [[.str "done"], [.str "open"], [.null]] := by
    refine eq_of_ascending hasc ?_ fun key => ?_
    · have hdone : Before (.str "done") (.str "open") := .str (by decide)
      have hopen : ∀ t, Before (.str t) .null := fun t => .null Json.Value.noConfusion
      simp [List.cons_lex_cons_iff, hdone, hopen]
    · have hfound : (∃ row ∈ rows, groupKey r.spec row = key)
          ↔ key = [.str "open"] ∨ key = [.null] ∨ key = [.str "done"] ∨ key = [.str "open"] := by
        simp [rows, row, groupKey, r, valueAt, Dict.find?, eq_comm]
      rw [hkeys, hfound, List.mem_cons, List.mem_cons, List.mem_singleton]
      tauto
  exact ⟨responses, haggregate, hkeys' ▸ hreports⟩

/-- With fifty thousand wildcards a filter is compiled, but nothing is aggregated. -/
theorem aggregate_eq_error_of_wildcards :
    let e : Entity := ⟨"task", "tasks", none, ["id"], [⟨"id", .integer⟩, ⟨"title", .text⟩], []⟩
    let c : Compiler := ⟨⟨[e]⟩, .empty, .standard⟩
    let pattern := String.ofList (List.replicate 50000 '%')
    let r : AggregateRequest := ⟨"task", .onField "title" .like (.str pattern),
      ⟨["id"], [], [], [], [], ["title"]⟩⟩
    let rows : List Json.Row := [[("id", .int 1), ("title", .str "a")]]
    r.Groups c e ∧ HoldKinds r.spec rows ∧
      (service c [("task", rows)]).aggregate r
        = .error (.execution (.filter "task" (.invalidValue "title" "like" .patternTooLarge))) := by
  intro e c pattern r rows
  have hlarge : Pattern.isTooLarge false (Pattern.items pattern.toList) = true :=
    Pattern.isTooLarge_text_wildcards false (by decide)
  have hname : e.relation? "title" = none := rfl
  have hfind : Dict.find? [("id", .int 1), ("title", .str "a")] "title"
      = some (Json.Value.str "a") := rfl
  obtain ⟨hcondition, hholds⟩ := Scoped.scope_onField_like_of_isTooLarge hname
    (Registry.empty_lookup? ..) hfind hlarge c.catalog e.tableAlias
  have hgroups : r.Groups c e :=
    { found := rfl
      builtIn := Registry.empty_holdsBuiltIn
      accepted := ⟨_, hcondition⟩
      groupBy := List.cons_ne_nil _ _
      hasFunctions := rfl
      readable := by
        rintro (_ | f) <;> try cases f
        all_goals simp [r, Spec.part, Spec.fields, IsReadable] }
  have hkinds : HoldKinds r.spec rows :=
    List.forall_mem_singleton.2 ⟨.text, trivial, List.forall_mem_singleton.2 (.inr rfl)⟩
  refine ⟨hgroups, hkinds, ?_⟩
  have hfound : (c.storeOf [("task", rows)]).catalog.find? "task" = some e := rfl
  have htable : (c.storeOf [("task", rows)]).table "task" = rows := rfl
  have hrow : (r.filter.scope (c.storeOf [("task", rows)]).catalog e).holds
      (c.storeOf [("task", rows)]).registry [("id", .int 1), ("title", .str "a")]
      = .error (.invalidValue "title" "like" .patternTooLarge) := hholds
  have hmatching : (c.storeOf [("task", rows)]).matching r.entity r.filter
      = .error (.filter "task" (.invalidValue "title" "like" .patternTooLarge)) := by
    rw [Store.matching, show r.entity = "task" from rfl, hfound]
    simp only [htable, rows, Store.select, hrow]
  rw [hgroups.aggregate_eq_bind_matching, hmatching]
  rfl

end AggregateRequest
end RowQuery
