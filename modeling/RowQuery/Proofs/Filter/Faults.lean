import RowQuery.Proofs.Catalog
import RowQuery.Proofs.Joins.Routes
import RowQuery.Scoped.Truth
/-!
What can be wrong with a filter.

A filter is made into a condition, or judged on a row, entry by entry, and each entry may name
another entity, whose relations are followed in turn. In a catalog these are all there. So whatever
stops either walk, at any depth, is the fault of an operator, a value or a handler, and never of a
name that leads nowhere.
-/

namespace RowQuery

/-- Whether an error is about an operator or its value, or is given by a handler. -/
def QueryError.isOfFilter : QueryError → Bool
  | .unknownOperator .. | .invalidValue .. | .aborted => true
  | .noAggregateFields | .unknownAggregateColumn .. | .cursor .. | .pageSizeExceeded .. | .paging ..
  | .unknownEntity .. => false

/-- Nothing but an operator, a value or a handler can be at fault. -/
def FaultsInFilter {α : Type} (x : Except QueryError α) : Prop :=
  ∀ err, x = .error err → err.isOfFilter = true

namespace FaultsInFilter

variable {α β : Type} {x : Except QueryError α}

theorem ok (a : α) : FaultsInFilter (.ok a) := by
  intro err herr
  cases herr

theorem error {err : QueryError} (h : err.isOfFilter = true) :
    FaultsInFilter (.error err : Except QueryError α) := by
  rintro _ ⟨⟩
  exact h

theorem bind {f : α → Except QueryError β} (hx : FaultsInFilter x)
    (hf : ∀ a, FaultsInFilter (f a)) : FaultsInFilter (x >>= f) := by
  intro err herr
  rcases bind_eq_error.1 herr with hfault | ⟨a, -, hfault⟩
  · exact hx err hfault
  · exact hf a err hfault

theorem map {f : α → β} (hx : FaultsInFilter x) : FaultsInFilter (x.map f) :=
  fun err herr => hx err (map_eq_error.1 herr)

theorem ne_unknownEntity (hx : FaultsInFilter x) (name : String) :
    x ≠ .error (.unknownEntity name) := by
  intro herr
  cases hx _ herr

end FaultsInFilter

/-! ### Operators -/

namespace Comparison

open RowQuery.Filter (Operator Value)

section
variable (s : Subject) (op : Operator)

theorem faults_scalar (v : Value) : FaultsInFilter (scalar s op v) := by
  rw [scalar]
  split
  · exact .ok _
  · exact .error rfl

theorem faults_scalars (items : List Value) : FaultsInFilter (scalars s op items) := by
  induction items with
  | nil => exact .ok _
  | cons v rest ih =>
    rw [scalars]
    exact (faults_scalar s op v).bind fun _ => ih.bind fun _ => .ok _

theorem faults_members (v : Value) : FaultsInFilter (members s op v) := by
  unfold members
  split
  · exact .error rfl
  · exact faults_scalars s op _
  · exact .error rfl

theorem faults_bounds (v : Value) : FaultsInFilter (bounds s op v) := by
  unfold bounds
  split
  · exact (faults_scalar s op _).bind fun _ => (faults_scalar s op _).bind fun _ => .ok _
  · exact .error rfl

theorem faults_patternTest (c : Sql.Comparator) (v : Value) :
    FaultsInFilter (patternTest s op c v) := by
  rw [patternTest]
  split
  · exact .ok _
  · exact .error rfl

theorem faults_identityTest (negated : Bool) (v : Value) :
    FaultsInFilter (identityTest s op negated v) := by
  unfold identityTest
  split
  · exact .ok _
  · exact .ok _
  · exact .error rfl

theorem faults_test (v : Value) : FaultsInFilter (test s op v) := by
  cases op with
  | eq | neq | gt | gte | lt | lte => exact (faults_scalar s _ v).map
  | like | notLike | iLike | notILike => exact faults_patternTest s _ _ v
  | is | isNot => exact faults_identityTest s _ _ v
  | «in» | notIn => exact (faults_members s _ v).map
  | between | notBetween => exact (faults_bounds s _ v).map
  | custom name => exact .error rfl

end

section
variable (field : String) (op : Operator) (actual : Json.Value)

theorem faults_holdsScalar (wanted : Ordering → Bool) (v : Value) :
    FaultsInFilter (holdsScalar field op wanted actual v) := by
  rw [holdsScalar]
  split
  · exact .ok _
  · exact .error rfl

theorem faults_holdsPattern (anyCase negated : Bool) (v : Value) :
    FaultsInFilter (holdsPattern field op anyCase negated actual v) := by
  rw [holdsPattern]
  split
  · exact .error rfl
  · split
    · exact .ok _
    · split
      · exact .error rfl
      · exact .ok _

theorem faults_holdsIdentity (negated : Bool) (v : Value) :
    FaultsInFilter (holdsIdentity field op negated actual v) := by
  unfold holdsIdentity
  split
  · exact .ok _
  · exact .ok _
  · exact .error rfl

theorem faults_holdsMember (negated : Bool) (v : Value) :
    FaultsInFilter (holdsMember field op negated actual v) := by
  unfold holdsMember
  split
  · exact .error rfl
  · split
    · exact .ok _
    · exact .ok _
  · exact .error rfl

theorem faults_holdsBetween (negated : Bool) (v : Value) :
    FaultsInFilter (holdsBetween field op negated actual v) := by
  unfold holdsBetween
  split
  · split
    · exact .ok _
    · exact .ok _
  · exact .error rfl

theorem faults_holds (v : Value) : FaultsInFilter (holds field op actual v) := by
  cases op with
  | eq | neq | gt | gte | lt | lte => exact faults_holdsScalar field _ actual _ v
  | like | notLike | iLike | notILike => exact faults_holdsPattern field _ actual _ _ v
  | is | isNot => exact faults_holdsIdentity field _ actual _ v
  | «in» | notIn => exact faults_holdsMember field _ actual _ v
  | between | notBetween => exact faults_holdsBetween field _ actual _ v
  | custom name => exact .error rfl

end

end Comparison

namespace Scoped

theorem isOfFilter_ofRejection (field operator : String) (r : Rejection) :
    (QueryError.ofRejection field operator r).isOfFilter = true := by
  cases r <;> rfl

/-- Whatever the handlers are, a rejection of one is about the value that it was given. -/
theorem faults_test (registry : Registry) (s : Site) : FaultsInFilter (s.test registry) := by
  rw [Site.test]
  split
  · split
    · exact .ok _
    · exact .error (isOfFilter_ofRejection ..)
  · exact Comparison.faults_test _ _ _

theorem faults_holdsOperator (registry : Registry) (entity : Entity) (name : String)
    (actual : Json.Value) (op : String) (v : Filter.Value) :
    FaultsInFilter (holdsOperator registry entity name actual op v) := by
  rw [holdsOperator]
  split
  · split
    · exact .ok _
    · exact .error rfl
    · exact .error rfl
  · exact Comparison.faults_holds _ _ _ _

/-! ### Conditions -/

section
variable {τ : Type} {leaf : Site → Except QueryError τ}

theorem faults_leaves (hleaf : ∀ s, FaultsInFilter (leaf s)) (entity : Entity)
    (aliasName name : String) : (operators : List (String × Filter.Value)) →
    FaultsInFilter (leaves leaf entity aliasName name operators)
  | [] => .ok _
  | (op, v) :: rest => by
    rw [leaves]
    exact (hleaf _).bind fun _ => (faults_leaves hleaf entity aliasName name rest).bind
      fun _ => .ok _

variable {catalog : Catalog}

mutual

/-- The entities that relations lead to are entities of the catalog again, which carries the
induction into nested filters. -/
theorem faults_tree (hcatalog : catalog.Closed) (hleaf : ∀ s, FaultsInFilter (leaf s)) :
    (f : Scoped) → {entity : Entity} → entity ∈ catalog.entities → f.Resolved catalog entity →
    (aliasName : String) → FaultsInFilter (f.tree leaf aliasName)
  | .node _ ands ors fields, entity, hentity, h, aliasName => by
    obtain ⟨rfl, hands, hors, hfields⟩ := h
    rw [tree]
    exact (faults_trees hcatalog hleaf ands hentity hands aliasName).bind fun _ =>
      (faults_trees hcatalog hleaf ors hentity hors aliasName).bind fun _ =>
        (faults_fieldTrees hcatalog hleaf fields hentity hfields aliasName).bind fun _ => .ok _

theorem faults_trees (hcatalog : catalog.Closed) (hleaf : ∀ s, FaultsInFilter (leaf s)) :
    (fs : List Scoped) → {entity : Entity} → entity ∈ catalog.entities →
    ResolvedAll catalog entity fs → (aliasName : String) → FaultsInFilter (trees leaf aliasName fs)
  | [], _, _, _, _ => .ok _
  | f :: rest, entity, hentity, h, aliasName => by
    rw [trees]
    exact (faults_tree hcatalog hleaf f hentity h.1 aliasName).bind fun _ =>
      (faults_trees hcatalog hleaf rest hentity h.2 aliasName).bind fun _ => .ok _

theorem faults_fieldTrees (hcatalog : catalog.Closed) (hleaf : ∀ s, FaultsInFilter (leaf s)) :
    (fields : List (String × ScopedEntry)) → {entity : Entity} → entity ∈ catalog.entities →
    ResolvedFields catalog entity fields → (aliasName : String) →
    FaultsInFilter (fieldTrees leaf aliasName entity fields)
  | [], _, _, _, _ => .ok _
  | (name, e) :: rest, entity, hentity, h, aliasName => by
    rw [fieldTrees]
    exact (faults_entryTree hcatalog hleaf e hentity h.1 aliasName).bind fun _ =>
      (faults_fieldTrees hcatalog hleaf rest hentity h.2 aliasName).bind fun _ => .ok _

theorem faults_entryTree (hcatalog : catalog.Closed) (hleaf : ∀ s, FaultsInFilter (leaf s)) :
    (e : ScopedEntry) → {entity : Entity} → {name : String} → entity ∈ catalog.entities →
    ResolvedEntry catalog entity name e → (aliasName : String) →
    FaultsInFilter (entryTree leaf aliasName entity name e)
  | .column operators, entity, name, _, _, aliasName => by
    rw [entryTree]
    exact (faults_leaves hleaf entity aliasName name operators).bind fun _ => .ok _
  | .notRelation, _, _, _, _, _ | .noFilter _ _, _, _, _, _, _ => .error rfl
  | .unknownTarget relation, _, _, hentity, h, _ => absurd h.2 (hcatalog.find?_ne_none hentity h.1)
  | .related relation target filter, _, _, _, h, _ => by
    rw [entryTree]
    exact (faults_tree hcatalog hleaf filter (Catalog.mem_of_find? h.2.1).1 h.2.2 _).bind
      fun _ => .ok _

end
end

/-! ### Judgements -/

theorem faults_anyOperator (registry : Registry) (entity : Entity) (name : String)
    (actual : Json.Value) : (operators : List (String × Filter.Value)) →
    FaultsInFilter (anyOperator registry entity name actual operators)
  | [] => .ok _
  | (op, v) :: rest => by
    rw [anyOperator]
    refine (faults_holdsOperator registry entity name actual op v).bind fun holds => ?_
    split
    · exact .ok _
    · exact faults_anyOperator registry entity name actual rest

theorem faults_anyRow {judge : Json.Row → Except QueryError Bool}
    (hjudge : ∀ row, FaultsInFilter (judge row)) : (rows : List Json.Row) →
    FaultsInFilter (anyRow judge rows)
  | [] => .ok _
  | row :: rest => by
    rw [anyRow]
    refine (hjudge row).bind fun holds => ?_
    split
    · exact .ok _
    · exact faults_anyRow hjudge rest

section
variable {catalog : Catalog} {registry : Registry}

mutual

theorem faults_holds (hcatalog : catalog.Closed) : (f : Scoped) → {entity : Entity} →
    entity ∈ catalog.entities → f.Resolved catalog entity → (row : Json.Row) →
    FaultsInFilter (f.holds registry row)
  | .node _ ands ors fields, entity, hentity, h, row => by
    obtain ⟨rfl, hands, hors, hfields⟩ := h
    have hrest := faults_holdsFields hcatalog fields hentity hfields row
    rw [holds]
    refine (faults_holdsAll hcatalog ands hentity hands row).bind fun _ => ?_
    split
    · split
      · exact hrest
      · refine (faults_holdsAny hcatalog ors hentity hors row).bind fun _ => ?_
        split
        · exact hrest
        · exact .ok _
    · exact .ok _

theorem faults_holdsAll (hcatalog : catalog.Closed) : (fs : List Scoped) → {entity : Entity} →
    entity ∈ catalog.entities → ResolvedAll catalog entity fs → (row : Json.Row) →
    FaultsInFilter (holdsAll registry row fs)
  | [], _, _, _, _ => .ok _
  | f :: rest, entity, hentity, h, row => by
    rw [holdsAll]
    refine (faults_holds hcatalog f hentity h.1 row).bind fun _ => ?_
    split
    · exact faults_holdsAll hcatalog rest hentity h.2 row
    · exact .ok _

theorem faults_holdsAny (hcatalog : catalog.Closed) : (fs : List Scoped) → {entity : Entity} →
    entity ∈ catalog.entities → ResolvedAll catalog entity fs → (row : Json.Row) →
    FaultsInFilter (holdsAny registry row fs)
  | [], _, _, _, _ => .ok _
  | f :: rest, entity, hentity, h, row => by
    rw [holdsAny]
    refine (faults_holds hcatalog f hentity h.1 row).bind fun _ => ?_
    split
    · exact .ok _
    · exact faults_holdsAny hcatalog rest hentity h.2 row

theorem faults_holdsFields (hcatalog : catalog.Closed) :
    (fields : List (String × ScopedEntry)) → {entity : Entity} → entity ∈ catalog.entities →
    ResolvedFields catalog entity fields → (row : Json.Row) →
    FaultsInFilter (holdsFields registry row entity fields)
  | [], _, _, _, _ => .ok _
  | (name, e) :: rest, entity, hentity, h, row => by
    rw [holdsFields]
    refine (faults_holdsEntry hcatalog e hentity h.1 row).bind fun _ => ?_
    split
    · exact faults_holdsFields hcatalog rest hentity h.2 row
    · exact .ok _

theorem faults_holdsEntry (hcatalog : catalog.Closed) : (e : ScopedEntry) → {entity : Entity} →
    {name : String} → entity ∈ catalog.entities → ResolvedEntry catalog entity name e →
    (row : Json.Row) → FaultsInFilter (holdsEntry registry row entity name e)
  | .column operators, entity, name, _, _, row => by
    rw [holdsEntry]
    split
    · exact .ok _
    · exact faults_anyOperator registry entity name _ operators
  | .notRelation, _, _, _, _, _ | .noFilter _ _, _, _, _, _, _ => .error rfl
  | .unknownTarget relation, _, _, hentity, h, _ => absurd h.2 (hcatalog.find?_ne_none hentity h.1)
  | .related relation target filter, entity, name, _, h, row => by
    rw [holdsEntry]
    exact faults_anyRow
      (fun related => faults_holds hcatalog filter (Catalog.mem_of_find? h.2.1).1 h.2.2 related) _

end
end

end Scoped
end RowQuery
