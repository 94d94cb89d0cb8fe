import RowQuery.Catalog.Basic
import RowQuery.Filter.Size
/-!
Filters with their names resolved.

Whether an entry is about a column or about related rows is decided by the entity it is used on. A
scoped filter has these decisions made, at every depth, so what follows (the SQL condition, the
joins and the judgement on rows) is plain recursion on a tree. What cannot be resolved stays in the
tree as what it is, since not every use gets to see it.
-/

namespace RowQuery

mutual

/-- A filter on the rows of an entity, with its names resolved. -/
inductive Scoped where
  | node (entity : Entity) (ands ors : List Scoped) (fields : List (String × ScopedEntry))

/-- What an entry of a filter is about. -/
inductive ScopedEntry where
  /-- A column, with operators of which one has to hold. -/
  | column (operators : List (String × Filter.Value))
  /-- A filter under a name that is no relation. -/
  | notRelation
  /-- A relation to an entity that the catalog has not. -/
  | unknownTarget (relation : Relation)
  /-- A relation with an entry that is no filter. -/
  | noFilter (relation : Relation) (target : Entity)
  /-- A relation with a filter on its rows. -/
  | related (relation : Relation) (target : Entity) (filter : Scoped)

end

namespace Filter

mutual

/-- Resolves the names of a filter on an entity. The filter of an entry is smaller than the filter
that holds the entry, so this ends on catalogs whose relations lead in circles too. -/
def scope (catalog : Catalog) (entity : Entity) : Filter → Scoped
  | .node ands ors fields =>
    .node entity (scopeAll catalog entity ands) (scopeAll catalog entity ors)
      (scopeFields catalog entity fields)
  termination_by f => (f.size, 1)
  decreasing_by all_goals (simp only [size, Prod.lex_def]; omega)

/-- `scope` of every filter. -/
def scopeAll (catalog : Catalog) (entity : Entity) : List Filter → List Scoped
  | [] => []
  | f :: rest => scope catalog entity f :: scopeAll catalog entity rest
  termination_by fs => (sizeGroup fs, fs.length + 2)
  decreasing_by
    all_goals (simp only [sizeGroup, Prod.lex_def, List.length_cons]; have := size_pos f; omega)

/-- Resolves the entries of a filter. -/
def scopeFields (catalog : Catalog) (entity : Entity) :
    List (String × Entry) → List (String × ScopedEntry)
  | [] => []
  | (name, e) :: rest =>
    (name, scopeEntry catalog entity name e) :: scopeFields catalog entity rest
  termination_by fields => (sizeFields fields, fields.length + 3)
  decreasing_by all_goals (simp only [sizeFields, Prod.lex_def, List.length_cons]; omega)

/-- Resolves an entry under a name. -/
def scopeEntry (catalog : Catalog) (entity : Entity) (name : String) (e : Entry) : ScopedEntry :=
  match entity.relation? name with
  | none => match e with
    | .comparison operators => .column operators
    | .related _ => .notRelation
  | some relation => match catalog.find? relation.target with
    | none => .unknownTarget relation
    | some target => match _found : e.filter? with
      | none => .noFilter relation target
      | some f => .related relation target (scope catalog target f)
  termination_by (sizeEntry e, 2)
  decreasing_by
    have := Entry.size_le_of_filter? _found
    simp only [Prod.lex_def]; omega

end

end Filter
end RowQuery
