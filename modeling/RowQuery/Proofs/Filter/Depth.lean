import RowQuery.Proofs.Outcome
import RowQuery.Scoped.Condition
import RowQuery.Scoped.Joins
import RowQuery.Scoped.Truth
/-!
Walks over a filter end within its size.

The filter that an entry means is no part of the entry where that is a comparison: it is read from
the JSON form of the comparison, whose values become filters. Still it is smaller than the filter
that holds the entry, and so are the members of groups. Here the walks for the condition, the joins
and the judgement are stated once more on filters as they are, each entry read where it is met, and
with a bound on how deep filters may be nested. The size of the filter is bound enough on every
catalog, be its relations circular or not: up to there each walk ends as the one without a bound.
-/

namespace RowQuery
namespace Filter

/-! ### What a filter holds is smaller -/

theorem size_le_sizeGroup {f : Filter} {fs : List Filter} (h : f ∈ fs) : f.size ≤ sizeGroup fs := by
  induction fs with
  | nil => cases h
  | cons g rest ih =>
    rw [sizeGroup]
    rcases List.mem_cons.1 h with rfl | hrest
    · exact Nat.le_add_right ..
    · exact Nat.le_trans (ih hrest) (Nat.le_add_left ..)

theorem sizeEntry_le_sizeFields {e : String × Entry} {fields : List (String × Entry)}
    (h : e ∈ fields) : sizeEntry e.2 ≤ sizeFields fields := by
  induction fields with
  | nil => cases h
  | cons e' rest ih =>
    rw [sizeFields]
    rcases List.mem_cons.1 h with rfl | hrest
    · exact Nat.le_add_right ..
    · exact Nat.le_trans (ih hrest) (Nat.le_add_left ..)

section
variable {f g : Filter} {depth : Nat}

theorem size_eq (f : Filter) :
    f.size = 1 + sizeGroup f.ands + sizeGroup f.ors + sizeFields f.fields := by
  cases f
  rfl

theorem size_lt_of_mem_ands (h : g ∈ f.ands) : g.size < f.size := by
  have hle := size_le_sizeGroup h
  rw [size_eq f]
  omega

theorem size_lt_of_mem_ors (h : g ∈ f.ors) : g.size < f.size := by
  have hle := size_le_sizeGroup h
  rw [size_eq f]
  omega

theorem size_le_of_mem_ands (hf : f.size ≤ depth + 1) (h : g ∈ f.ands) : g.size ≤ depth :=
  Nat.le_of_lt_succ (Nat.lt_of_lt_of_le (size_lt_of_mem_ands h) hf)

theorem size_le_of_mem_ors (hf : f.size ≤ depth + 1) (h : g ∈ f.ors) : g.size ≤ depth :=
  Nat.le_of_lt_succ (Nat.lt_of_lt_of_le (size_lt_of_mem_ors h) hf)

theorem size_lt_of_filter? {e : String × Entry} (he : e ∈ f.fields) (h : e.2.filter? = some g) :
    g.size < f.size := by
  have hle := Entry.size_le_of_filter? h
  have hfields := sizeEntry_le_sizeFields he
  rw [size_eq f]
  omega

end

/-! ### Walks with a bound -/

/-- Where an entry leads. -/
inductive Lead where
  /-- Nowhere: what it says is settled by itself. -/
  | here (e : ScopedEntry)
  /-- To a filter on the rows of another entity. -/
  | onward (relation : Relation) (target : Entity) (filter : Filter)

/-- Follows an entry under a name by one step. -/
def lead (catalog : Catalog) (entity : Entity) (name : String) (e : Entry) : Lead :=
  match entity.relation? name with
  | none => match e with
    | .comparison operators => .here (.column operators)
    | .related _ => .here .notRelation
  | some relation => match catalog.find? relation.target with
    | none => .here (.unknownTarget relation)
    | some target => match e.filter? with
      | none => .here (.noFilter relation target)
      | some f => .onward relation target f

/-- Why a walk with a bound ends early. -/
inductive Halt where
  | fault (err : QueryError)
  /-- Filters are nested deeper than the bound. -/
  | tooDeep

/-- An outcome of a walk without a bound, as one of a walk with a bound. -/
def Halt.lift {α : Type} (x : Except QueryError α) : Except Halt α := x.mapError .fault

section
variable (registry : Registry) (catalog : Catalog)

/-- The condition of a filter, its nested filters no deeper than the bound. -/
def conditionWithin : Nat → Entity → String → Filter → Except Halt (Option Sql.Condition)
  | 0, _, _, _ => .error .tooDeep
  | depth + 1, entity, aliasName, f => do
    let ands ← f.ands.mapM (conditionWithin depth entity aliasName)
    let ors ← f.ors.mapM (conditionWithin depth entity aliasName)
    let fields ← f.fields.mapM fun e => match lead catalog entity e.1 e.2 with
      | .here s => Halt.lift (Scoped.entryTree (Scoped.Site.test registry) aliasName entity e.1 s)
      | .onward relation target g => do
        let c ← conditionWithin depth target relation.joinAlias g
        return c.map Sql.Tree.bracket
    return Sql.Tree.all? ((Scoped.allClause ands).toList ++ (Scoped.anyClause ors).toList
      ++ fields.filterMap id)

/-- Adds the joins of a filter to those already met; none if it is nested deeper than the bound. -/
def joinsWithin : Nat → Entity → String → List Sql.Join → Filter → Option (List Sql.Join)
  | 0, _, _, _, _ => none
  | depth + 1, entity, aliasName, joins, f => do
    let joins ← f.ands.foldlM (joinsWithin depth entity aliasName) joins
    let joins ← f.ors.foldlM (joinsWithin depth entity aliasName) joins
    f.fields.foldlM (fun joins e => match lead catalog entity e.1 e.2 with
      | .here s => some (Scoped.addEntryJoins aliasName joins s)
      | .onward relation target g => joinsWithin depth target relation.joinAlias
        (Scoped.addJoin joins (Scoped.joinOf aliasName relation target)) g) joins

/-- Whether a row satisfies a filter, its nested filters no deeper than the bound. -/
def holdsWithin : Nat → Entity → Json.Row → Filter → Except Halt Bool
  | 0, _, _, _ => .error .tooDeep
  | depth + 1, entity, row, f => do
    let entries := f.fields.allM fun e => match lead catalog entity e.1 e.2 with
      | .here s => Halt.lift (Scoped.holdsEntry registry row entity e.1 s)
      | .onward _ target g => (Scoped.relatedRows (Dict.find? row e.1)).anyM fun related =>
        holdsWithin depth target related g
    if ← f.ands.allM (holdsWithin depth entity row) then
      if f.ors.isEmpty then entries
      else if ← f.ors.anyM (holdsWithin depth entity row) then entries
      else return false
    else return false

end

/-! ### One step -/

section
variable {catalog : Catalog} {entity : Entity} {name : String} {e : Entry}

theorem scopeEntry_of_here {s : ScopedEntry} (h : lead catalog entity name e = .here s) :
    scopeEntry catalog entity name e = s := by
  rw [scopeEntry.eq_def]
  unfold lead at h
  grind

theorem scopeEntry_of_onward {relation : Relation} {target : Entity} {g : Filter}
    (h : lead catalog entity name e = .onward relation target g) :
    e.filter? = some g ∧
      scopeEntry catalog entity name e = .related relation target (scope catalog target g) := by
  rw [scopeEntry.eq_def]
  unfold lead at h
  grind

theorem scope_eq (catalog : Catalog) (entity : Entity) (f : Filter) :
    f.scope catalog entity = .node entity (scopeAll catalog entity f.ands)
      (scopeAll catalog entity f.ors) (scopeFields catalog entity f.fields) := by
  cases f
  rw [scope]
  rfl

end

section
variable {α β : Type} {x : Except QueryError α}

/-- A step without a bound, and what follows it. -/
theorem Halt.lift_bind {k : α → Except Halt β} {k' : α → Except QueryError β}
    (h : ∀ a, k a = lift (k' a)) : (lift x >>= k) = lift (x >>= k') := by
  cases x with
  | error err => rfl
  | ok a => exact h a

/-- A step that decides, and what follows either decision. -/
theorem Halt.lift_bind_bool {x : Except QueryError Bool} {k : Bool → Except Halt β}
    {k' : Bool → Except QueryError β} (htrue : k true = lift (k' true))
    (hfalse : k false = lift (k' false)) : (lift x >>= k) = lift (x >>= k') :=
  lift_bind fun b => by cases b <;> assumption

end

section
variable {registry : Registry} {catalog : Catalog} {entity : Entity}

/-! ### Conditions -/

section
variable {aliasName : String}

theorem mapM_eq_trees {walk : Filter → Except Halt (Option Sql.Condition)} {fs : List Filter}
    (h : ∀ g ∈ fs, walk g = Halt.lift ((g.scope catalog entity).condition registry aliasName)) :
    fs.mapM walk = Halt.lift
      (Scoped.trees (Scoped.Site.test registry) aliasName (scopeAll catalog entity fs)) := by
  induction fs with
  | nil =>
    rw [scopeAll]
    rfl
  | cons g rest ih =>
    rw [List.forall_mem_cons] at h
    rw [List.mapM_cons, h.1, ih h.2, scopeAll, Scoped.trees]
    exact Halt.lift_bind fun _ => Halt.lift_bind fun _ => rfl

theorem mapM_eq_fieldTrees {walk : String × Entry → Except Halt (Option Sql.Condition)}
    {fields : List (String × Entry)}
    (h : ∀ e ∈ fields, walk e = Halt.lift (Scoped.entryTree (Scoped.Site.test registry) aliasName
      entity e.1 (scopeEntry catalog entity e.1 e.2))) :
    fields.mapM walk = Halt.lift (Scoped.fieldTrees (Scoped.Site.test registry) aliasName entity
      (scopeFields catalog entity fields)) := by
  induction fields with
  | nil =>
    rw [scopeFields]
    rfl
  | cons e rest ih =>
    rw [List.forall_mem_cons] at h
    rw [List.mapM_cons, h.1, ih h.2, scopeFields, Scoped.fieldTrees]
    exact Halt.lift_bind fun _ => Halt.lift_bind fun _ => rfl

end

/-- A bound of the size of the filter is enough for its condition. -/
theorem conditionWithin_eq {depth : Nat} {aliasName : String} {f : Filter} (h : f.size ≤ depth) :
    conditionWithin registry catalog depth entity aliasName f
      = Halt.lift ((f.scope catalog entity).condition registry aliasName) := by
  induction depth generalizing entity aliasName f with
  | zero => exact absurd (size_pos f) (Nat.not_lt.2 h)
  | succ depth ih =>
    have hands : f.ands.mapM (conditionWithin registry catalog depth entity aliasName) = _ :=
      mapM_eq_trees fun g hg => ih (size_le_of_mem_ands h hg)
    have hors : f.ors.mapM (conditionWithin registry catalog depth entity aliasName) = _ :=
      mapM_eq_trees fun g hg => ih (size_le_of_mem_ors h hg)
    rw [scope_eq, Scoped.condition, Scoped.tree, conditionWithin, hands, hors]
    refine Halt.lift_bind fun cands => Halt.lift_bind fun cors => ?_
    rw [mapM_eq_fieldTrees fun e he => ?_]
    · exact Halt.lift_bind fun _ => rfl
    · cases hlead : lead catalog entity e.1 e.2 with
      | here s => rw [scopeEntry_of_here hlead]
      | onward relation target g =>
        obtain ⟨hfilter, hscope⟩ := scopeEntry_of_onward hlead
        have hg := size_lt_of_filter? he hfilter
        dsimp only
        rw [hscope, Scoped.entryTree, ih (by omega)]
        exact Halt.lift_bind fun _ => rfl

/-! ### Joins -/

section
variable {aliasName : String}

theorem foldlM_eq_addAllJoins {walk : List Sql.Join → Filter → Option (List Sql.Join)}
    {fs : List Filter}
    (h : ∀ g ∈ fs, ∀ joins,
      walk joins g = some ((g.scope catalog entity).addJoins aliasName joins))
    (joins : List Sql.Join) : fs.foldlM walk joins
      = some (Scoped.addAllJoins aliasName joins (scopeAll catalog entity fs)) := by
  induction fs generalizing joins with
  | nil =>
    rw [scopeAll]
    rfl
  | cons g rest ih =>
    rw [List.forall_mem_cons] at h
    rw [List.foldlM_cons, h.1, scopeAll, Scoped.addAllJoins]
    exact ih h.2 _

theorem foldlM_eq_addFieldJoins {walk : List Sql.Join → String × Entry → Option (List Sql.Join)}
    {fields : List (String × Entry)}
    (h : ∀ e ∈ fields, ∀ joins, walk joins e
      = some (Scoped.addEntryJoins aliasName joins (scopeEntry catalog entity e.1 e.2)))
    (joins : List Sql.Join) : fields.foldlM walk joins
      = some (Scoped.addFieldJoins aliasName joins (scopeFields catalog entity fields)) := by
  induction fields generalizing joins with
  | nil =>
    rw [scopeFields]
    rfl
  | cons e rest ih =>
    rw [List.forall_mem_cons] at h
    rw [List.foldlM_cons, h.1, scopeFields, Scoped.addFieldJoins]
    exact ih h.2 _

end

/-- A bound of the size of the filter is enough for its joins. -/
theorem joinsWithin_eq {depth : Nat} {aliasName : String} {f : Filter} (h : f.size ≤ depth)
    (joins : List Sql.Join) : joinsWithin catalog depth entity aliasName joins f
      = some ((f.scope catalog entity).addJoins aliasName joins) := by
  induction depth generalizing entity aliasName f joins with
  | zero => exact absurd (size_pos f) (Nat.not_lt.2 h)
  | succ depth ih =>
    have hands : f.ands.foldlM (joinsWithin catalog depth entity aliasName) joins = _ :=
      foldlM_eq_addAllJoins (fun g hg => ih (size_le_of_mem_ands h hg)) joins
    have hors : ∀ joins, f.ors.foldlM (joinsWithin catalog depth entity aliasName) joins = _ :=
      foldlM_eq_addAllJoins fun g hg => ih (size_le_of_mem_ors h hg)
    rw [scope_eq, Scoped.addJoins, joinsWithin, hands]
    simp only [Option.bind_eq_bind, Option.bind_some, hors]
    refine foldlM_eq_addFieldJoins (fun e he joins => ?_) _
    cases hlead : lead catalog entity e.1 e.2 with
    | here s => rw [scopeEntry_of_here hlead]
    | onward relation target g =>
      obtain ⟨hfilter, hscope⟩ := scopeEntry_of_onward hlead
      have hg := size_lt_of_filter? he hfilter
      rw [hscope, Scoped.addEntryJoins]
      exact ih (by omega) _

/-! ### Judgements -/

section
variable {row : Json.Row}

theorem allM_eq_holdsAll {walk : Filter → Except Halt Bool} {fs : List Filter}
    (h : ∀ g ∈ fs, walk g = Halt.lift ((g.scope catalog entity).holds registry row)) :
    fs.allM walk = Halt.lift (Scoped.holdsAll registry row (scopeAll catalog entity fs)) := by
  induction fs with
  | nil =>
    rw [scopeAll]
    rfl
  | cons g rest ih =>
    rw [List.forall_mem_cons] at h
    rw [List.allM, h.1, scopeAll, Scoped.holdsAll]
    exact Halt.lift_bind_bool (ih h.2) rfl

theorem anyM_eq_holdsAny {walk : Filter → Except Halt Bool} {fs : List Filter}
    (h : ∀ g ∈ fs, walk g = Halt.lift ((g.scope catalog entity).holds registry row)) :
    fs.anyM walk = Halt.lift (Scoped.holdsAny registry row (scopeAll catalog entity fs)) := by
  induction fs with
  | nil =>
    rw [scopeAll]
    rfl
  | cons g rest ih =>
    rw [List.forall_mem_cons] at h
    rw [List.anyM, h.1, scopeAll, Scoped.holdsAny]
    exact Halt.lift_bind_bool rfl (ih h.2)

theorem allM_eq_holdsFields {walk : String × Entry → Except Halt Bool}
    {fields : List (String × Entry)}
    (h : ∀ e ∈ fields, walk e
      = Halt.lift (Scoped.holdsEntry registry row entity e.1 (scopeEntry catalog entity e.1 e.2))) :
    fields.allM walk = Halt.lift
      (Scoped.holdsFields registry row entity (scopeFields catalog entity fields)) := by
  induction fields with
  | nil =>
    rw [scopeFields]
    rfl
  | cons e rest ih =>
    rw [List.forall_mem_cons] at h
    rw [List.allM, h.1, scopeFields, Scoped.holdsFields]
    exact Halt.lift_bind_bool (ih h.2) rfl

theorem anyM_eq_anyRow {walk : Json.Row → Except Halt Bool}
    {judge : Json.Row → Except QueryError Bool} (h : ∀ row, walk row = Halt.lift (judge row))
    (rows : List Json.Row) : rows.anyM walk = Halt.lift (Scoped.anyRow judge rows) := by
  induction rows with
  | nil => rfl
  | cons row rest ih =>
    rw [List.anyM, h row, Scoped.anyRow]
    exact Halt.lift_bind_bool rfl ih

end

theorem isEmpty_scopeAll (catalog : Catalog) (entity : Entity) (fs : List Filter) :
    (scopeAll catalog entity fs).isEmpty = fs.isEmpty := by
  cases fs <;> rw [scopeAll] <;> rfl

/-- A bound of the size of the filter is enough to judge a row by it. -/
theorem holdsWithin_eq {depth : Nat} {row : Json.Row} {f : Filter} (h : f.size ≤ depth) :
    holdsWithin registry catalog depth entity row f
      = Halt.lift ((f.scope catalog entity).holds registry row) := by
  induction depth generalizing entity row f with
  | zero => exact absurd (size_pos f) (Nat.not_lt.2 h)
  | succ depth ih =>
    have hands : f.ands.allM (holdsWithin registry catalog depth entity row) = _ :=
      allM_eq_holdsAll fun g hg => ih (size_le_of_mem_ands h hg)
    have hors : f.ors.anyM (holdsWithin registry catalog depth entity row) = _ :=
      anyM_eq_holdsAny fun g hg => ih (size_le_of_mem_ors h hg)
    rw [scope_eq, Scoped.holds, isEmpty_scopeAll, holdsWithin, hands, hors,
      allM_eq_holdsFields fun e he => ?_]
    · refine Halt.lift_bind_bool ?_ rfl
      cases f.ors.isEmpty with
      | true => rfl
      | false => exact Halt.lift_bind_bool rfl rfl
    · cases hlead : lead catalog entity e.1 e.2 with
      | here s => rw [scopeEntry_of_here hlead]
      | onward relation target g =>
        obtain ⟨hfilter, hscope⟩ := scopeEntry_of_onward hlead
        have hg := size_lt_of_filter? he hfilter
        rw [hscope, Scoped.holdsEntry]
        exact anyM_eq_anyRow (fun row => ih (by omega)) _

end

/-- The members of groups and the filters that entries mean are smaller than the filter that holds
them. So on every catalog the walks for the condition, the joins and the judgement, which read the
entries where they meet them, end as they do without a bound where filters may be nested as deep as
the filter is large. -/
theorem walks_end_within_size {f : Filter} {depth : Nat} (h : f.size ≤ depth) (registry : Registry)
    (catalog : Catalog) (entity : Entity) (aliasName : String) (row : Json.Row) :
    (∀ g ∈ f.ands ++ f.ors, g.size < f.size) ∧
      (∀ e ∈ f.fields, ∀ g, e.2.filter? = some g → g.size < f.size) ∧
      conditionWithin registry catalog depth entity aliasName f
        = Halt.lift ((f.scope catalog entity).condition registry aliasName) ∧
      joinsWithin catalog depth entity aliasName [] f
        = some ((f.scope catalog entity).joins aliasName) ∧
      holdsWithin registry catalog depth entity row f
        = Halt.lift ((f.scope catalog entity).holds registry row) := by
  refine ⟨fun g hg => ?_, fun e he g hg => size_lt_of_filter? he hg, conditionWithin_eq h,
    joinsWithin_eq h [], holdsWithin_eq h⟩
  rcases List.mem_append.1 hg with hg | hg
  · exact size_lt_of_mem_ands hg
  · exact size_lt_of_mem_ors hg

/-- A filter on the parent of the parent, where a node's parent is a node and the inner entry has to
be read again. -/
theorem walks_end_within_size_parents :
    let parent : Relation := ⟨"parent", "node", none, .left, "parent_id", "id"⟩
    let node : Entity := ⟨"node", "nodes", none, ["id"], [⟨"id", .integer⟩], [parent]⟩
    let inner : Entry := .comparison [("or", .list [])]
    let outer : Filter :=
      .node [] [] [("id", .comparison [("eq", .int 1)]), ("parent", inner)]
    let f := Filter.onRelation "parent" outer
    let s := f.scope ⟨[node]⟩ node
    inner.filter? = some empty ∧ empty.size < outer.size ∧ f.size ≤ 6 ∧ outer.size < f.size ∧
      Halt.lift (s.condition .empty "node") = .ok (some
        (.group (.test (.compare .eq ⟨"parent", "id"⟩ ⟨.int 1, none⟩)))) ∧
      some (s.joins "node")
        = some [⟨.left, "nodes", "parent", ⟨"node", "parent_id"⟩, ⟨"parent", "id"⟩⟩] ∧
      Halt.lift (s.holds .empty [("parent", .obj [("id", .int 1)])]) = .ok true := by
  intro parent node inner outer f s
  have hinner : inner.filter? = some empty := by rfl
  have hsize : f.size ≤ 6 := by decide
  obtain ⟨-, hentries, -⟩ := walks_end_within_size (f := outer) (Nat.le_refl _) .empty ⟨[node]⟩ node
    "node" []
  obtain ⟨-, hfields, hcondition, hjoins, hholds⟩ := walks_end_within_size hsize .empty ⟨[node]⟩
    node "node" [("parent", .obj [("id", .int 1)])]
  refine ⟨hinner, hentries ("parent", inner) (.tail _ (.head _)) _ hinner, hsize,
    hfields ("parent", .related outer) (.head _) _ rfl, ?_, ?_, ?_⟩
  · rw [← hcondition]
    rfl
  · rw [← hjoins]
    rfl
  · rw [← hholds]
    rfl

end Filter
end RowQuery
