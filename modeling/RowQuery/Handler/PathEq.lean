import RowQuery.Handler.Basic
import RowQuery.Number.Notation
/-!
The handler `json_path_eq`: equality with a value inside a JSON column.

The configuration gives the path as a text with points between the segments or as an array of
segments. Segments stand in the SQL text, so they have to be plain identifiers. The database
compares texts; in memory JSON values are compared.
-/

namespace RowQuery.PathEq

/-- The member of the configuration that holds the path. -/
def pathName : String := "path"

/-- Letters, digits and the underscore of ASCII. -/
def isWordChar (c : Char) : Bool := c.isAlphanum || c == '_'

/-- A name of at most 63 bytes, of letters, digits and underscores, that begins with no digit. -/
def isSafe (name : String) : Bool :=
  match name.toList with
  | [] => false
  | c :: rest => decide (name.utf8ByteSize ≤ 63) && (c :: rest).all isWordChar && !c.isDigit

/-- The first `bytes` bytes of a text in UTF-8; none if they end inside a character. -/
def cut? : Nat → List Char → Option (List Char)
  | 0, _ => some []
  | _, [] => some []
  | bytes, c :: rest =>
    if c.utf8Size ≤ bytes then (cut? (bytes - c.utf8Size) rest).map (c :: ·) else none

/-- The texts of an array whose items are all texts. -/
def texts? : List Json.Value → Option (List String)
  | [] => some []
  | v :: rest => do
    let s ← v.text?
    let ss ← texts? rest
    some (s :: ss)

/-- The segments that a configuration gives, none if it gives no path. -/
def segments (config : Json.Value) : List String :=
  match config.member? pathName with
  | some (.str s) => (s.splitToList fun c => c == '.')
  | some (.arr items) => (texts? items).getD []
  | _ => []

/-- The rejection of an unsafe segment, which shows its first 64 bytes. -/
def unsafeSegment (segment : String) : Rejection :=
  match cut? 64 segment.toList with
  | some shown => .unsafeSegment (String.ofList shown)
  | none => .brokenCut

/-- The path of a configuration. -/
def path (config : Json.Value) : Except Rejection (List String) :=
  let found := segments config
  if found.isEmpty then .error .noPath
  else match found.find? fun s => !isSafe s with
    | some segment => .error (unsafeSegment segment)
    | none => .ok found

/-- The text that the database extracts for a scalar, null for null. -/
def extracted? : Filter.Value → Option Sql.Param
  | .null => some .null
  | .bool b => some (.text (if b then "true" else "false"))
  | .int i => some (.text (toString i))
  | .float x => some (.text (DecimalStyle.plain.text x))
  | .str s => some (.text s)
  | .list _ | .range _ _ => none

/-- The value at a path of members. -/
def valueAt? : List String → Json.Value → Option Json.Value
  | [], v => some v
  | key :: rest, v => (v.member? key).bind (valueAt? rest)

/-- The handler. -/
def handler : Handler where
  test column v config := do
    let keys ← path config
    match extracted? v with
    | none => .error .notScalar
    | some p =>
      return .custom ""
        [(.column column, " #>> '\x7b" ++ ",".intercalate keys ++ "\x7d' = "),
          (.bound ⟨p, none⟩, "")]
  judge actual v config :=
    match path config with
    | .error .brokenCut => .aborted
    | .error _ => .undecided
    | .ok keys =>
      match valueAt? keys actual with
      | none => .holds false
      | some found => .holds (found.same v.toJson)

end RowQuery.PathEq
