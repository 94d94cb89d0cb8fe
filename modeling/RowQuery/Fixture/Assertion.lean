import RowQuery.Json.Writer
import RowQuery.SortOrder
/-!
Assertions for tests: each says nothing if it holds, and why it fails otherwise.
-/

namespace RowQuery.Assertion

/-- Why an assertion fails. -/
inductive Failure where
  | noKey (key : String) (v : Json.Value)
  | notContained (needle haystack : String)
  | contained (needle haystack : String)
  | different

/-- The text of a failure; one of two values that differ shows none. -/
def Failure.message : Failure → String
  | noKey key v => s!"Expected JSON to have key '{key}', got: " ++ v.text
  | notContained needle haystack => s!"Expected string to contain '{needle}'\nActual: {haystack}"
  | contained needle haystack => s!"Expected string to NOT contain '{needle}'\nActual: {haystack}"
  | different => ""

/-- Nothing if a condition holds, a failure otherwise. -/
def demand (holds : Bool) (failure : Failure) : Option Failure :=
  if holds then none else some failure

/-- An object has to have a key. -/
def hasKey (v : Json.Value) (key : String) : Option Failure :=
  demand (v.member? key).isSome (.noKey key v)

/-- Two values have to be equal. -/
def sameJson (actual expected : Json.Value) : Option Failure :=
  demand (actual.same expected) .different

/-- Whether a text stands in another. -/
def occursIn (needle : List Char) : List Char → Bool
  | [] => needle.isEmpty
  | c :: rest => needle.isPrefixOf (c :: rest) || occursIn needle rest

/-- A text has to stand in another. -/
def contains (haystack needle : String) : Option Failure :=
  demand (occursIn needle.toList haystack.toList) (.notContained needle haystack)

/-- A text must not stand in another. -/
def notContains (haystack needle : String) : Option Failure :=
  demand (!occursIn needle.toList haystack.toList) (.contained needle haystack)

/-- Rows have to have some values in a field, in their order. A row without the field has null. -/
def fieldValues (rows : List Json.Value) (field : String) (expected : List Json.Value) :
    Option Failure :=
  let actual := rows.map fun row => (row.member? field).getD .null
  demand (Json.Value.sameItems actual expected) .different

end RowQuery.Assertion
