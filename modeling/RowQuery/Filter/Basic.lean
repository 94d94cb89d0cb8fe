import RowQuery.Filter.Operator
import RowQuery.Filter.Value
/-!
Filter trees.

A filter holds all of its `ands`, one of its `ors` if there are any, and all of its field entries.
An entry is a comparison, whose operators are alternatives, or a filter on related rows; which of
the two a key means is decided by the catalog, so `Entry.filter?` reads a comparison again as a
filter.
-/

namespace RowQuery

mutual

/-- A filter: groups of filters and entries by field name. -/
inductive Filter where
  | node (ands ors : List Filter) (fields : List (String × Entry))

/-- What a filter says of one field: operators with their values, or a filter on related rows. -/
inductive Entry where
  | comparison (operators : List (String × Filter.Value))
  | related (filter : Filter)

end

namespace Filter

/-- The filter that every row satisfies. -/
def empty : Filter := .node [] [] []

instance : Inhabited Filter := ⟨empty⟩
instance : Inhabited Entry := ⟨.comparison []⟩

/-- The filters that all have to hold. -/
def ands : Filter → List Filter
  | .node ands _ _ => ands

/-- The filters of which one has to hold, if there are any. -/
def ors : Filter → List Filter
  | .node _ ors _ => ors

/-- The entries by field name. -/
def fields : Filter → Dict Entry
  | .node _ _ fields => fields

/-- The filter that holds where all of some filters hold. -/
def allOf (filters : List Filter) : Filter := .node filters [] []

/-- The filter that holds where one of some filters holds. -/
def anyOf (filters : List Filter) : Filter := .node [] filters []

/-- The filter that rows related under a name satisfy a filter. -/
def onRelation (name : String) (filter : Filter) : Filter := .node [] [] [(name, .related filter)]

/-- Adds an operator with its value to the comparison of a field; a filter on related rows under the
name gives way. -/
def withOperator (f : Filter) (name : String) (op : Operator) (value : Value) : Filter :=
  let operators : Dict Value := match Dict.find? f.fields name with
    | some (.comparison operators) => operators
    | _ => []
  .node f.ands f.ors (Dict.insert name (.comparison (Dict.insert op.name value operators)) f.fields)

/-- The filter of one comparison. -/
def onField (name : String) (op : Operator) (value : Value) : Filter :=
  empty.withOperator name op value

mutual

/-- Whether a filter says nothing of any field. -/
def isEmpty : Filter → Bool
  | .node ands ors fields => isEmptyAll ands && isEmptyAll ors && isEmptyFields fields

/-- `isEmpty` of every filter. -/
def isEmptyAll : List Filter → Bool
  | [] => true
  | f :: rest => isEmpty f && isEmptyAll rest

/-- Whether every entry says nothing. -/
def isEmptyFields : List (String × Entry) → Bool
  | [] => true
  | (_, e) :: rest => isEmptyEntry e && isEmptyFields rest

/-- Whether an entry says nothing. -/
def isEmptyEntry : Entry → Bool
  | .comparison operators => operators.isEmpty
  | .related f => isEmpty f

end

/-- Both filters; one that says nothing is left out. -/
def merge (f g : Filter) : Filter :=
  if f.isEmpty then g else if g.isEmpty then f else allOf [f, g]

mutual

/-- The field names a filter uses for its own entity, in the order of the tree. -/
def names : Filter → List String
  | .node ands ors fields => namesAll ands ++ namesAll ors ++ fields.map (·.1)

/-- `names` of every filter. -/
def namesAll : List Filter → List String
  | [] => []
  | f :: rest => names f ++ namesAll rest

end

/-- The field names a filter uses for its own entity, ascending and each once. -/
def fieldNames (f : Filter) : List String :=
  (Dict.ofList (f.names.map fun name => (name, ()))).keys

/-! ### JSON form -/

/-- The name of the group of which all filters hold. -/
def andName : String := "and"

/-- The name of the group of which one filter holds. -/
def orName : String := "or"

/-- The JSON form of a comparison. -/
def comparisonJson : List (String × Value) → List (String × Json.Value)
  | [] => []
  | (op, v) :: rest => (op, v.toJson) :: comparisonJson rest

/-- Reads a comparison: an object whose members are all values. -/
def readComparison? : Json.Value → Option (Dict Value)
  | .obj members => (Value.readMembers? members).map Dict.ofList
  | _ => none

/-- One member of the JSON form of a filter. -/
inductive Part where
  | ands (filters : List Filter)
  | ors (filters : List Filter)
  | field (name : String) (entry : Entry)

/-- The filters of which all hold, if the part is that group. -/
def Part.ands? : Part → Option (List Filter)
  | .ands filters => some filters
  | .ors _ | .field _ _ => none

/-- The filters of which one holds, if the part is that group. -/
def Part.ors? : Part → Option (List Filter)
  | .ors filters => some filters
  | .ands _ | .field _ _ => none

/-- The name and the entry, if the part is one of a field. -/
def Part.field? : Part → Option (String × Entry)
  | .field name entry => some (name, entry)
  | .ands _ | .ors _ => none

/-- The filter of some parts: each group at most once, of entries under one name the last. -/
def ofParts? (parts : List Part) : Option Filter :=
  let ands := parts.filterMap Part.ands?
  let ors := parts.filterMap Part.ors?
  if ands.length ≤ 1 ∧ ors.length ≤ 1 then
    some (.node ands.flatten ors.flatten (Dict.ofList (parts.filterMap Part.field?)))
  else none

mutual

/-- Reads a filter from its JSON form. -/
def read? : Json.Value → Option Filter
  | .obj members => do
    let parts ← readParts? members
    ofParts? parts
  | .null | .bool _ | .num _ | .str _ | .arr _ => none

/-- Reads the members of the JSON form of a filter. An entry that reads as a comparison is one. -/
def readParts? : List (String × Json.Value) → Option (List Part)
  | [] => some []
  | (name, v) :: rest =>
    let part? : Option Part :=
      if name = andName then (readGroup? v).map Part.ands
      else if name = orName then (readGroup? v).map Part.ors
      else match readComparison? v with
        | some operators => some (.field name (.comparison operators))
        | none => (read? v).map fun f => .field name (.related f)
    do
      let part ← part?
      let parts ← readParts? rest
      some (part :: parts)

/-- Reads a group: an array of filters. -/
def readGroup? : Json.Value → Option (List Filter)
  | .arr items => readItems? items
  | .null | .bool _ | .num _ | .str _ | .obj _ => none

/-- `read?` on every item. -/
def readItems? : List Json.Value → Option (List Filter)
  | [] => some []
  | v :: rest => do
    let f ← read? v
    let fs ← readItems? rest
    some (f :: fs)

end

mutual

/-- The JSON form of a filter, empty groups left out, before its members are put in order. -/
def toJson : Filter → Json.Value
  | .node ands ors fields =>
    .obj (Dict.ofList ((if ands.isEmpty then [] else [(andName, .arr (toJsonAll ands))])
      ++ (if ors.isEmpty then [] else [(orName, .arr (toJsonAll ors))])
      ++ toJsonFields fields))

/-- `toJson` of every filter. -/
def toJsonAll : List Filter → List Json.Value
  | [] => []
  | f :: rest => toJson f :: toJsonAll rest

/-- The JSON forms of the entries. -/
def toJsonFields : List (String × Entry) → List (String × Json.Value)
  | [] => []
  | (name, e) :: rest => (name, toJsonEntry e) :: toJsonFields rest

/-- The JSON form of an entry. -/
def toJsonEntry : Entry → Json.Value
  | .comparison operators => .obj (comparisonJson operators)
  | .related f => toJson f

end

/-! ### Size -/

/-- The sum of the sizes of the values of operators. -/
def sizeOperators : List (String × Value) → Nat
  | [] => 0
  | (_, v) :: rest => v.size + sizeOperators rest

mutual

/-- The number of filters, entries and values in a filter, its groups counted too. -/
def size : Filter → Nat
  | .node ands ors fields => 1 + sizeGroup ands + sizeGroup ors + sizeFields fields

/-- The size of a group: the sum of the sizes of its filters. -/
def sizeGroup : List Filter → Nat
  | [] => 0
  | f :: rest => size f + sizeGroup rest

/-- The sum of the sizes of entries. -/
def sizeFields : List (String × Entry) → Nat
  | [] => 0
  | (_, e) :: rest => sizeEntry e + sizeFields rest

/-- The size of an entry. A filter on related rows counts as itself. -/
def sizeEntry : Entry → Nat
  | .comparison operators => 1 + sizeOperators operators
  | .related f => size f

end

end Filter

/-- Reads an entry from its JSON form: as a comparison if possible, as a filter otherwise. -/
def Entry.read? (v : Json.Value) : Option Entry :=
  match Filter.readComparison? v with
  | some operators => some (.comparison operators)
  | none => (Filter.read? v).map .related

/-- The filter on related rows that an entry means under the name of a relation. A comparison is
read again from its JSON form. -/
def Entry.filter? : Entry → Option Filter
  | .related f => some f
  | .comparison [] => some .empty
  | .comparison operators => Filter.read? (.obj (Filter.comparisonJson operators))

end RowQuery
