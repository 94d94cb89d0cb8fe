import RowQuery.Json.Reader
/-!
Values as plain data.

Plain data has the members of every object in the order of their names, of a repeated name the last
one. An object whose first member has the reserved name stands for the value of the JSON text that
this member holds; the text may hold such objects again.
-/

namespace RowQuery.Json

/-- The reserved name of a member that holds a JSON text. -/
def embeddedName : String := "$serde_json::private::RawValue"

/-- Whether the first of some members has the reserved name. -/
def isEmbedded (members : List (String × Value)) : Bool :=
  match members with
  | [] => false
  | (name, _) :: _ => name == embeddedName

/-- The text of the first of some members. If `alone` is set, there may be no other member. -/
def embeddedText? (alone : Bool) : List (String × Value) → Option String
  | (_, .str text) :: rest => if alone && !rest.isEmpty then none else some text
  | _ => none

namespace Value

mutual

/-- The value as plain data, with `embedded` for the values of texts. -/
def plainWith? (alone : Bool) (embedded : String → Option Value) : Value → Option Value
  | .arr items => (plainItems? alone embedded items).map .arr
  | .obj members =>
    if isEmbedded members then (embeddedText? alone members).bind embedded
    else (plainMembers? alone embedded members).map fun members => .obj (Dict.ofList members)
  | .null => some .null
  | .bool b => some (.bool b)
  | .num n => some (.num n)
  | .str s => some (.str s)

/-- `plainWith?` on every item. -/
def plainItems? (alone : Bool) (embedded : String → Option Value) :
    List Value → Option (List Value)
  | [] => some []
  | v :: rest => do
    let v ← plainWith? alone embedded v
    let rest ← plainItems? alone embedded rest
    some (v :: rest)

/-- `plainWith?` on the value of every member. -/
def plainMembers? (alone : Bool) (embedded : String → Option Value) :
    List (String × Value) → Option (List (String × Value))
  | [] => some []
  | (name, v) :: rest => do
    let v ← plainWith? alone embedded v
    let rest ← plainMembers? alone embedded rest
    some ((name, v) :: rest)

end

/-- The plain data of a text. A text within a text is shorter than it, so the length is fuel
enough. -/
def embedded? : Nat → String → Option Value
  | 0, _ => none
  | fuel + 1, text => do plainWith? true (embedded? fuel) (← parse? text)

/-- The value as plain data. If `alone` is set, a member with the reserved name may have no others
after it. -/
def plain? (alone : Bool) (v : Value) : Option Value :=
  v.plainWith? alone fun text => embedded? (text.length + 1) text

end Value
end RowQuery.Json
