import RowQuery.Scoped.Basic
import RowQuery.Sql.Statement
/-!
The joins that a filter needs.

Each relation that the filter names anywhere is joined once for each alias, in the order in which
the aliases are met: groups before entries, an entry before the filter nested in it.
-/

namespace RowQuery.Scoped

/-- The join that follows a relation from the table known by an alias. -/
def joinOf (aliasName : String) (relation : Relation) (target : Entity) : Sql.Join where
  kind := relation.join
  table := target.table
  aliasName := relation.joinAlias
  owner := ⟨aliasName, relation.localColumn⟩
  joined := ⟨relation.joinAlias, relation.foreignColumn⟩

/-- Adds a join unless its alias is taken. -/
def addJoin (joins : List Sql.Join) (join : Sql.Join) : List Sql.Join :=
  if joins.any fun j => j.aliasName == join.aliasName then joins else joins ++ [join]

mutual

/-- Adds the joins of a filter to those already met. -/
def addJoins (aliasName : String) (joins : List Sql.Join) : Scoped → List Sql.Join
  | .node _ ands ors fields =>
    addFieldJoins aliasName (addAllJoins aliasName (addAllJoins aliasName joins ands) ors) fields

/-- `addJoins` of every filter. -/
def addAllJoins (aliasName : String) (joins : List Sql.Join) : List Scoped → List Sql.Join
  | [] => joins
  | f :: rest => addAllJoins aliasName (addJoins aliasName joins f) rest

/-- Adds the joins of entries. -/
def addFieldJoins (aliasName : String) (joins : List Sql.Join) :
    List (String × ScopedEntry) → List Sql.Join
  | [] => joins
  | (_, e) :: rest => addFieldJoins aliasName (addEntryJoins aliasName joins e) rest

/-- Adds the joins of an entry. -/
def addEntryJoins (aliasName : String) (joins : List Sql.Join) : ScopedEntry → List Sql.Join
  | .column _ | .notRelation | .unknownTarget _ => joins
  | .noFilter relation target => addJoin joins (joinOf aliasName relation target)
  | .related relation target filter =>
    addJoins relation.joinAlias (addJoin joins (joinOf aliasName relation target)) filter

end

/-- The joins that a filter needs on the table known by an alias. -/
def joins (f : Scoped) (aliasName : String) : List Sql.Join := f.addJoins aliasName []

end RowQuery.Scoped
