import RowQuery.Regex.Size
import RowQuery.Text.Listing
/-!
The errors of compiling and running a request, and their texts.

Each error is a cause with what it concerns; `message` is the only place where the wording stands.
-/

namespace RowQuery

/-- Why a handler refuses a value or its configuration. -/
inductive Rejection where
  | zeroDivisor
  | notNumeric
  | notScalarOrArray
  | notScalar
  | noPath
  | unsafeSegment (shown : String)
  /-- A segment that would have to be cut inside a character to be shown. Nothing is answered then:
  the whole request is given up. -/
  | brokenCut
deriving DecidableEq, Repr

/-- The text of a rejection. -/
def Rejection.message : Rejection → String
  | zeroDivisor => "divisor must not be zero"
  | notNumeric => "expected a numeric divisor"
  | notScalarOrArray => "expected a scalar or an array"
  | notScalar => "expected a scalar"
  | noPath => "json_path_eq requires a non-empty 'path' in its config"
  | unsafeSegment shown => s!"unsafe JSON path segment: '{shown}'"
  | brokenCut => ""

/-- What is wrong with the value of an operator. -/
inductive ValueFault where
  | notScalar
  | notPattern
  | patternUnread
  | patternTooLarge
  | notBoolean
  | notArray
  | emptyArray
  | notRange
  | notRelation (name entity : String)
  | noFilter
  | rejected (r : Rejection)
deriving DecidableEq, Repr

/-- The text of a fault. -/
def ValueFault.message : ValueFault → String
  | notScalar => "expected a scalar"
  | notPattern => "expected a string pattern"
  | patternUnread => Regex.Fault.unread.message
  | patternTooLarge => Regex.Fault.tooLarge.message
  | notBoolean => "expected true, false or null"
  | notArray => "expected an array"
  | emptyArray => "array must not be empty"
  | notRange => "expected \x7blower, upper\x7d"
  | notRelation name entity => s!"'{name}' is not a relation of '{entity}'"
  | noFilter => "relation expects a nested filter"
  | rejected r => r.message

/-- The fault of a pattern whose regular expression is not built. -/
def ValueFault.ofRegex : Regex.Fault → ValueFault
  | .unread => .patternUnread
  | .tooLarge => .patternTooLarge

/-- What is wrong with a cursor. -/
inductive CursorFault where
  | notBase64
  | badIndex
  | badPayload
  | unsupportedVersion (version : Nat)
  | noFields
  | keysetGiven
  | positionGiven
  | otherFields (got want : List String)
  | notScalar (field : String)
deriving DecidableEq, Repr

/-- The text of a fault. -/
def CursorFault.message : CursorFault → String
  | notBase64 => "not base64"
  | badIndex => "bad positional index"
  | badPayload => "bad payload"
  | unsupportedVersion version => s!"unsupported cursor version {version}"
  | noFields => "keyset cursor has no fields"
  | keysetGiven => "expected a positional cursor, got a keyset cursor"
  | positionGiven => "expected a keyset cursor, got a positional cursor"
  | otherFields got want =>
    "cursor fields " ++ Listing.text got ++ " do not match sort " ++ Listing.text want
  | notScalar field => s!"cursor value for '{field}' is not a scalar"

/-- What is wrong with paging arguments. -/
inductive PagingFault where
  | mixedStyles
  | firstAndLast
  | firstWithBefore
  | lastWithAfter
  | afterAndBefore
  | negative (name : String)
  | lastWithoutBefore
  | positional
deriving DecidableEq, Repr

/-- The text of a fault. -/
def PagingFault.message : PagingFault → String
  | mixedStyles => "limit/offset cannot be combined with first, last, after or before"
  | firstAndLast => "first and last are mutually exclusive"
  | firstWithBefore => "first cannot be combined with before"
  | lastWithAfter => "last cannot be combined with after"
  | afterAndBefore => "after and before are mutually exclusive"
  | negative name => s!"{name} must not be negative"
  | lastWithoutBefore => "last without before needs a keyset; use first or limit/offset"
  | positional => "limit/offset pages are positional"

/-- Why a request does not compile, or a filter cannot be judged on a row. -/
inductive QueryError where
  | unknownOperator (field operator : String)
  | invalidValue (field operator : String) (fault : ValueFault)
  | noAggregateFields
  | unknownAggregateColumn (column : String)
  | cursor (fault : CursorFault)
  | pageSizeExceeded (requested max : Nat)
  | paging (fault : PagingFault)
  | unknownEntity (name : String)
  /-- The request is given up without an answer. -/
  | aborted
deriving DecidableEq, Repr

namespace QueryError

/-- The text of an error. -/
def message : QueryError → String
  | unknownOperator field operator => s!"unknown operator '{operator}' for field '{field}'"
  | invalidValue field operator fault =>
    s!"invalid value for '{operator}' on field '{field}': " ++ fault.message
  | noAggregateFields => "no aggregate fields specified"
  | unknownAggregateColumn column => s!"unknown aggregate column '{column}'"
  | cursor fault => "invalid cursor: " ++ fault.message
  | pageSizeExceeded requested max => s!"page size {requested} exceeds maximum of {max}"
  | paging fault => "invalid paging: " ++ fault.message
  | unknownEntity name => s!"unknown entity '{name}'"
  | aborted => ""

/-- The error of a rejected value: a rejection without a text gives the request up. -/
def ofRejection (field operator : String) : Rejection → QueryError
  | .brokenCut => .aborted
  | r => .invalidValue field operator (.rejected r)

end QueryError

/-- Why a filter handler is not registered. -/
inductive RegistryError where
  | noOperations (target : String)
  | noTypes (handler : String)
  | unknownHandler (name : String)
  | invalidOperation (name : String)
deriving DecidableEq, Repr

/-- The text of an error. -/
def RegistryError.message : RegistryError → String
  | noOperations target => s!"custom filter for {target} has no operations"
  | noTypes handler => s!"custom filter with handler '{handler}' has no column types"
  | unknownHandler name => s!"unknown filter handler '{name}'"
  | invalidOperation name => s!"invalid operation name '{name}'"

end RowQuery
