import RowQuery.Comparison.Test
import RowQuery.Registry
import RowQuery.Scoped.Basic
/-!
The SQL condition of a filter.

Every group, every nested filter and every field stands in brackets of its own, so the condition has
exactly the structure of the filter: `(a) AND (b)` never meets an OR on its level. A filter that
says nothing has no condition. Such a filter drops out of a group of which all have to hold, and
takes a group of which one has to hold with it, since it holds of every row.
-/

namespace RowQuery.Scoped

/-- One operator with its value on one field, where it stands in a filter. -/
structure Site where
  entity : Entity
  /-- The alias under which the entity's table is known. -/
  aliasName : String
  field : String
  operator : String
  value : Filter.Value

/-- The SQL test of an operator: by its handler if there is one, as built in otherwise. -/
def Site.test (registry : Registry) (s : Site) : Except QueryError Sql.Test :=
  let column : Sql.Column := ⟨s.aliasName, s.field⟩
  let type := s.entity.columnType? s.field
  match registry.lookup? s.operator type (some (s.entity.name, s.field)) with
  | some r => match r.handler.test column s.value r.config with
    | .ok t => .ok t
    | .error rejection => .error (.ofRejection s.field s.operator rejection)
  | none => Comparison.test ⟨column, type⟩ (.ofName s.operator) s.value

/-! ### Clauses of groups -/

section
variable {τ : Type}

/-- The bracketed trees that are there. -/
def present (cs : List (Option (Sql.Tree τ))) : List (Sql.Tree τ) :=
  cs.filterMap fun c => c.map Sql.Tree.bracket

/-- The bracketed trees, if every one is there. -/
def complete : List (Option (Sql.Tree τ)) → Option (List (Sql.Tree τ))
  | [] => some []
  | none :: _ => none
  | some c :: rest => (complete rest).map (c.bracket :: ·)

/-- The bracketed clause of a group of which all have to hold. -/
def allClause (cs : List (Option (Sql.Tree τ))) : Option (Sql.Tree τ) :=
  (Sql.Tree.all? (present cs)).map Sql.Tree.bracket

/-- The bracketed clause of a group of which one has to hold. -/
def anyClause (cs : List (Option (Sql.Tree τ))) : Option (Sql.Tree τ) :=
  ((complete cs).bind Sql.Tree.any?).map Sql.Tree.bracket

end

/-! ### Filters -/

section
variable {τ : Type} (leaf : Site → Except QueryError τ)

/-- The leaves of operators on a field. -/
def leaves (entity : Entity) (aliasName name : String) :
    List (String × Filter.Value) → Except QueryError (List (Sql.Tree τ))
  | [] => .ok []
  | (op, v) :: rest => do
    let t ← leaf ⟨entity, aliasName, name, op, v⟩
    let ts ← leaves entity aliasName name rest
    return .test t :: ts

mutual

/-- The tree of a filter on the table known by an alias, none if the filter says nothing. What
stands at its leaves is made by `leaf`. -/
def tree (aliasName : String) : Scoped → Except QueryError (Option (Sql.Tree τ))
  | .node entity ands ors fields => do
    let ands ← trees aliasName ands
    let ors ← trees aliasName ors
    let fields ← fieldTrees aliasName entity fields
    return Sql.Tree.all? ((allClause ands).toList ++ (anyClause ors).toList
      ++ fields.filterMap id)

/-- `tree` of every filter. -/
def trees (aliasName : String) : List Scoped → Except QueryError (List (Option (Sql.Tree τ)))
  | [] => .ok []
  | f :: rest => do
    let c ← tree aliasName f
    let cs ← trees aliasName rest
    return c :: cs

/-- The clauses of entries. -/
def fieldTrees (aliasName : String) (entity : Entity) :
    List (String × ScopedEntry) → Except QueryError (List (Option (Sql.Tree τ)))
  | [] => .ok []
  | (name, e) :: rest => do
    let c ← entryTree aliasName entity name e
    let cs ← fieldTrees aliasName entity rest
    return c :: cs

/-- The bracketed clause of an entry. Related rows are known by the alias of the relation's join. -/
def entryTree (aliasName : String) (entity : Entity) (name : String) :
    ScopedEntry → Except QueryError (Option (Sql.Tree τ))
  | .column operators => do
    let tests ← leaves leaf entity aliasName name operators
    return (Sql.Tree.any? tests).map Sql.Tree.bracket
  | .notRelation =>
    .error (.invalidValue name "relation" (.notRelation name entity.name))
  | .unknownTarget relation => .error (.unknownEntity relation.target)
  | .noFilter _ _ => .error (.invalidValue name "relation" .noFilter)
  | .related relation _ filter => do
    let c ← tree relation.joinAlias filter
    return c.map Sql.Tree.bracket

end
end

/-- The condition of a filter on the table known by an alias, none if it says nothing. -/
def condition (registry : Registry) (aliasName : String) (f : Scoped) :
    Except QueryError (Option Sql.Condition) :=
  f.tree (Site.test registry) aliasName

end RowQuery.Scoped
