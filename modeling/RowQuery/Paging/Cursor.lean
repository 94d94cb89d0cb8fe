import RowQuery.Error
import RowQuery.Json.Plain
import RowQuery.Json.Reader
import RowQuery.Json.Record
import RowQuery.Json.Writer
import RowQuery.SortOrder
import RowQuery.Text.Base64
import RowQuery.Text.Character
import RowQuery.Text.Integer
/-!
Cursors: opaque texts that say where a page ended.

A cursor is a position in the whole result or the values of the sort fields of a row. Its text is
the base64 form of a compact JSON object that names the kind and the version. A short form of
positions without JSON is read as well, but no longer written.
-/

namespace RowQuery

/-- The value of one sort field in a row. -/
structure KeyField where
  field : String
  value : Json.Value

/-- A cursor. -/
inductive Cursor where
  /-- A position, counted from zero. -/
  | position (index : Nat)
  /-- The values of the sort fields. -/
  | keyset (fields : List KeyField)

/-- The JSON form of a key field. -/
def KeyField.toJson (k : KeyField) : Json.Value :=
  .obj [("field", .str k.field), ("value", k.value)]

/-- Reads a key field. -/
def KeyField.read? (v : Json.Value) : Option KeyField := do
  let r ← v.recordOf? true ["field", "value"]
  let field ← r.required? "field" Json.Value.text?
  let value ← r.required? "value" (Json.Value.plain? true)
  return ⟨field, value⟩

namespace Cursor

/-- The version of the format. -/
def version : Nat := 1

/-- The kind of a position. -/
def positionKind : String := "offset"

/-- The kind of a key set. -/
def keysetKind : String := "keyset"

/-- The cursor of a row: its values in the fields of a sort. -/
def ofRow (row : Json.Row) (sort : SortOrder) : Cursor :=
  .keyset (sort.map fun s => ⟨s.field, SortOrder.valueAt row s.field⟩)

/-- The object that the text of a cursor holds. -/
def payload : Cursor → Json.Value
  | .position index =>
    .obj [("kind", .str positionKind), ("v", .nat version), ("offset", .nat index)]
  | .keyset fields =>
    .obj [("kind", .str keysetKind), ("v", .nat version),
      ("fields", .arr (fields.map KeyField.toJson))]

/-- The text of a cursor. -/
def encode (c : Cursor) : String :=
  String.ofList (Base64.encode (Utf8.encode (Json.Writer.compact c.payload)))

/-- What the short form of a position begins with. -/
def shortForm : List Char := "arrayconnection:".toList

/-- The bytes after a beginning. -/
def afterBytes? (beginning bytes : List UInt8) : Option (List UInt8) :=
  if beginning.isPrefixOf bytes then some (bytes.drop beginning.length) else none

/-- The position of a short form. -/
def ofShortForm (index : List UInt8) : Except CursorFault Cursor :=
  match Utf8.decode? index with
  | none => .error .badIndex
  | some digits => match Integer.readNat Json.maxUInt64 digits with
    | .ok n => .ok (.position n)
    | .error _ => .error .badIndex

/-- Reads a version: a number of 32 bits. -/
def readVersion? (v : Json.Value) : Option Nat := do
  let n ← v.uint64?
  if n < 2 ^ 32 then some n else none

/-- The version and the content of a payload. -/
def readPayload? (v : Json.Value) : Option (Nat × Cursor) := do
  let kind ← (← v.recordOf? true ["kind", "v", "content"]).required? "kind" Json.Value.text?
  if kind = positionKind then
    let r ← v.recordOf? true ["kind", "v", "offset"]
    let number ← r.required? "v" readVersion?
    let index ← r.required? "offset" Json.Value.uint64?
    return (number, .position index)
  else if kind = keysetKind then
    let r ← v.recordOf? true ["kind", "v", "fields"]
    let number ← r.required? "v" readVersion?
    let fields ← r.required? "fields" (Json.Value.listOf? KeyField.read?)
    return (number, .keyset fields)
  else none

/-- Checks the version and that a key set has fields. -/
def checked : Nat × Cursor → Except CursorFault Cursor
  | (number, c) =>
    if number ≠ version then .error (.unsupportedVersion number)
    else match c with
      | .keyset [] => .error .noFields
      | c => .ok c

/-- The cursor of the bytes that a text holds. -/
def ofBytes (bytes : List UInt8) : Except CursorFault Cursor :=
  match afterBytes? (Utf8.encode shortForm) bytes with
  | some index => ofShortForm index
  | none => match (Utf8.decode? bytes).bind Json.Value.ofChars? with
    | none => .error .badPayload
    | some v => match readPayload? v with
      | none => .error .badPayload
      | some found => checked found

/-- Reads the text of a cursor; blanks around it do not matter. -/
def decode (text : String) : Except CursorFault Cursor :=
  match Base64.decode? (trimBlanks text.toList) with
  | none => .error .notBase64
  | some bytes => ofBytes bytes

/-- The position of a cursor that has to be one. -/
def intoPosition : Cursor → Except CursorFault Nat
  | .position index => .ok index
  | .keyset _ => .error .keysetGiven

/-- The values of a cursor that has to hold those of a sort. -/
def intoKeyset (sort : SortOrder) : Cursor → Except CursorFault (List KeyField)
  | .position _ => .error .positionGiven
  | .keyset fields =>
    let got := fields.map KeyField.field
    let want := sort.map SortField.field
    if got = want then .ok fields else .error (.otherFields got want)

end Cursor
end RowQuery
