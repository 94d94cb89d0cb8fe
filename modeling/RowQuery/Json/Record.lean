import RowQuery.Json.Value
/-!
Reading values as records: members that have to be there, members with a default and optional ones.

A record is given as an object or as an array of its members in their order. In an object, a member
that is not asked for is ignored, and a member that is asked for may not stand twice. In an array,
members with a default may be left out at the end. In a format that knows null, a null stands for an
optional member that is left out; in one that does not, every member that is there has to have its
type.
-/

namespace RowQuery.Json

/-- A value on its way to become a record. -/
structure Record where
  members : List (String × Value)
  /-- Whether the format knows null, so that a null leaves an optional member out. -/
  knowsNull : Bool
  /-- Whether the members were given by their places, without names. -/
  byPlace : Bool

namespace Value

/-- Reads every item of an array. -/
def listOf? {α : Type} (read : Value → Option α) : Value → Option (List α)
  | .arr items => items.mapM read
  | _ => none

/-- An array of texts. -/
def texts? : Value → Option (List String) := listOf? text?

/-- The name of a choice: a text, or an object that has the name as its only member and nothing
under it. -/
def choice? (knowsNull : Bool) : Value → Option String
  | .str name => some name
  | .obj [(name, .null)] => if knowsNull then some name else none
  | .obj [(name, .arr [])] | .obj [(name, .obj [])] => if knowsNull then none else some name
  | _ => none

/-- The record of an object. -/
def record? (knowsNull : Bool) : Value → Option Record
  | .obj members => some ⟨members, knowsNull, false⟩
  | _ => none

/-- The record of an object, or of an array that holds the members of the given names in this order.
A format without null lets an array hold more than that. -/
def recordOf? (knowsNull : Bool) (names : List String) : Value → Option Record
  | .arr items =>
    if knowsNull && decide (names.length < items.length) then none
    else some ⟨names.zip items, knowsNull, true⟩
  | v => v.record? knowsNull

/-- A value that may be null. -/
def nullOr? {α : Type} (read : Value → Option α) (v : Value) : Option (Option α) :=
  if v.isNull then some none else (read v).map some

end Value

namespace Record

variable {α : Type}

/-- The member of a name: none within if it is left out, none at all if it stands twice. -/
def find? (r : Record) (name : String) : Option (Option Value) :=
  match r.members.filter fun m => m.1 == name with
  | [] => some none
  | [m] => some (some m.2)
  | _ => none

/-- A member that has to be there. -/
def required? (r : Record) (name : String) (read : Value → Option α) : Option α := do
  let v ← (← r.find? name)
  read v

/-- A member with a default. -/
def withDefault? (r : Record) (name : String) (default : α) (read : Value → Option α) :
    Option α := do
  match ← r.find? name with
  | none => some default
  | some v => read v

/-- An optional member. An object may leave it out, an array may not. -/
def optional? (r : Record) (name : String) (read : Value → Option α) : Option (Option α) := do
  match ← r.find? name with
  | none => if r.byPlace then none else some none
  | some v => if v.isNull && r.knowsNull then some none else (read v).map some

/-- A member that is none by default, and that is none when it is null. -/
def nullable? (r : Record) (name : String) (read : Value → Option α) : Option (Option α) :=
  r.withDefault? name none (Value.nullOr? read)

end Record
end RowQuery.Json
