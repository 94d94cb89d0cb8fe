import RowQuery.Catalog.Basic
import RowQuery.Handler.Contains
import RowQuery.Handler.MultipleOf
import RowQuery.Handler.PathEq
/-!
The registry of custom operators.

A handler is registered for operations either on all columns of some types or on one field of one
entity. A lookup prefers the field; of two registrations for the same operation and target the later
one counts. A registration is checked before anything of it is stored.
-/

namespace RowQuery

/-- What a registration applies to. -/
inductive Target where
  | types (types : List ColumnType)
  | field (entity field : String)
deriving DecidableEq, Repr

/-- A registration as a catalog declares it. -/
structure Declaration where
  handler : String
  types : List ColumnType
  entity : Option String
  field : Option String
  operations : List String
  config : Json.Value

/-- The target of a declaration: a field if both its names are given. -/
def Declaration.target (d : Declaration) : Target :=
  match d.entity, d.field with
  | some entity, some field => .field entity field
  | _, _ => .types d.types

/-- A handler with its configuration. -/
structure Registration where
  handler : Handler
  config : Json.Value

/-- The place where a registration is stored. -/
inductive RegistryKey where
  | byType (type : ColumnType) (operation : String)
  | byField (entity field operation : String)
deriving DecidableEq, Repr

/-- Handlers by name and registrations by place, the latest first and none at a place twice. -/
structure Registry where
  handlers : Dict Handler
  entries : List (RegistryKey × Registration)

namespace Registry

/-- The handlers that declarations can always name. -/
def builtIn : Dict Handler :=
  Dict.ofList [("is_multiple_of", MultipleOf.handler), ("jsonb_contains", Contains.handler),
    ("json_path_eq", PathEq.handler)]

/-- The registry of the built-in handlers, with no registration. -/
def empty : Registry := ⟨builtIn, []⟩

instance : Inhabited Registry := ⟨empty⟩

/-- Makes a handler known to declarations by name. -/
def addHandler (r : Registry) (name : String) (h : Handler) : Registry :=
  { r with handlers := Dict.insert name h r.handlers }

/-- A name of at most 64 bytes, of letters, digits and underscores, that begins with a letter. -/
def isOperationName (name : String) : Bool :=
  match name.toList with
  | [] => false
  | c :: rest =>
    decide (name.utf8ByteSize ≤ 64) && (c :: rest).all PathEq.isWordChar && c.isAlpha

/-- The places of operations on a target. -/
def keys (target : Target) (operations : List String) : List RegistryKey :=
  match target with
  | .types types => types.flatMap fun t => operations.map (.byType t)
  | .field entity field => operations.map (.byField entity field)

/-- Stores a registration at a place. -/
def store (r : Registry) (key : RegistryKey) (registration : Registration) : Registry :=
  { r with entries := (key, registration) :: r.entries.filter fun e => e.1 != key }

/-- The fault of a registration under a handler name, if it has one. -/
def fault? (target : Target) (operations : List String) (name : String) : Option RegistryError :=
  if operations.isEmpty then
    some (.noOperations (match target with
      | .types _ => s!"handler '{name}'"
      | .field entity field => s!"{entity}.{field}"))
  else match operations.find? fun op => !isOperationName op with
    | some op => some (.invalidOperation op)
    | none => if target = .types [] then some (.noTypes name) else none

/-- Registers a handler for operations on a target. -/
def register (r : Registry) (registration : Registration) (target : Target)
    (operations : List String) (name : String) : Except RegistryError Registry :=
  match fault? target operations name with
  | some fault => .error fault
  | none => .ok ((keys target operations).foldl (fun r key => r.store key registration) r)

/-- The name under which a handler without a name is reported. -/
def inlineName : String := "<inline>"

/-- Registers a handler that is given itself, without a configuration. -/
def setFilter (r : Registry) (h : Handler) (target : Target) (operations : List String) :
    Except RegistryError Registry :=
  r.register ⟨h, .null⟩ target operations inlineName

/-- Applies one declaration. -/
def declare (r : Registry) (d : Declaration) : Except RegistryError Registry :=
  match Dict.find? r.handlers d.handler with
  | none => .error (.unknownHandler d.handler)
  | some h => r.register ⟨h, d.config⟩ d.target d.operations d.handler

/-- Applies declarations up to the first that fails: the registry with what was registered, and the
fault. -/
def declareAll (r : Registry) : List Declaration → Registry × Option RegistryError
  | [] => (r, none)
  | d :: rest =>
    match r.declare d with
    | .ok r => r.declareAll rest
    | .error e => (r, some e)

/-- Applies declarations, all or none. -/
def withDeclarations (r : Registry) (ds : List Declaration) : Except RegistryError Registry :=
  match r.declareAll ds with
  | (r, none) => .ok r
  | (_, some e) => .error e

/-- The registration at a place. -/
def find? (r : Registry) (key : RegistryKey) : Option Registration :=
  (r.entries.find? fun e => e.1 == key).map (·.2)

/-- The registration for an operation: the one of the field, else the one of the column type. -/
def lookup? (r : Registry) (operation : String) (type : Option ColumnType)
    (field : Option (String × String)) : Option Registration :=
  match field.bind fun f => r.find? (.byField f.1 f.2 operation) with
  | some registration => some registration
  | none => type.bind fun t => r.find? (.byType t operation)

/-- Whether a field of an entity has a registration of its own. -/
def hasField (r : Registry) (entity field : String) : Bool :=
  r.entries.any fun e => match e.1 with
    | .byField en f _ => en == entity && f == field
    | .byType _ _ => false

/-- The number of places with a registration. -/
def size (r : Registry) : Nat := r.entries.length

end Registry
end RowQuery
