import RowQuery.Paging.Page
/-!
Configuration from named variables.

A variable that is not set has its default. The variables are read one after the other, and the
first that cannot be read is reported.
-/

namespace RowQuery

/-- Why a timeout cannot be read. -/
inductive TimeoutError where
  | notANumber (text : String) (cause : IntegerError)
  | tooLarge (text : String)
  | unknownUnit (unit : String)
deriving DecidableEq, Repr

/-- The texts of an error and of what caused it. -/
def TimeoutError.messages : TimeoutError → List String
  | notANumber text cause => [s!"invalid duration '{text}'", cause.message]
  | tooLarge text => [s!"duration '{text}' is too large"]
  | unknownUnit unit => [s!"unknown duration unit '{unit}'"]

/-- Why a configuration cannot be read. -/
inductive ConfigError where
  | defaultSize (cause : IntegerError)
  | maxSize (cause : IntegerError)
  | connections (cause : IntegerError)
  | timeout (cause : TimeoutError)
deriving DecidableEq, Repr

namespace ConfigError

/-- The text of an error. -/
def message : ConfigError → String
  | defaultSize _ => "QUARRY_DEFAULT_PAGE_SIZE must be a valid u64"
  | maxSize _ => "QUARRY_MAX_PAGE_SIZE must be an integer or 'unlimited'"
  | connections _ => "DATABASE_MAX_CONNECTIONS must be a valid u32"
  | timeout _ => "QUARRY_STATEMENT_TIMEOUT must be a duration like 500ms, 10s or 2m"

/-- The texts of what caused an error. -/
def causes : ConfigError → List String
  | defaultSize cause => [cause.message]
  | maxSize cause => [cause.message]
  | connections cause => [cause.message]
  | timeout cause => cause.messages

end ConfigError

/-- A configuration. -/
structure Config where
  defaultSize : Nat
  maxSize : Option Nat
  catalogPath : Option String
  databaseUrl : Option String
  maxConnections : Nat
  /-- The timeout of a statement in milliseconds. -/
  timeout : Nat
deriving DecidableEq

namespace Config

/-- The variables of the configuration. -/
def names : List String :=
  ["QUARRY_DEFAULT_PAGE_SIZE", "QUARRY_MAX_PAGE_SIZE", "QUARRY_CATALOG", "DATABASE_URL",
    "DATABASE_MAX_CONNECTIONS", "QUARRY_STATEMENT_TIMEOUT"]

/-- The word for no largest page. -/
def unlimited : List Char := "unlimited".toList

/-- Reads the largest size of a page: the word for none in either case, or an integer, of which a
negative one means none too. -/
def readMaxSize (text : String) : Except IntegerError (Option Nat) :=
  let s := trimBlanks text.toList
  if s.map Char.toLower = unlimited then .ok none
  else (Integer.readInt Json.maxInt64.toNat s).map fun i => if i < 0 then none else some i.toNat

/-- Reads a timeout in milliseconds: a number with `ms`, `s`, `m` or nothing, which means seconds,
after it. Minutes have to fit 64 bits as seconds. -/
def readTimeout (text : String) : Except TimeoutError Nat :=
  let s := trimBlanks text.toList
  let unit := s.dropWhile Char.isDigit
  match Integer.readNat Json.maxUInt64 (s.takeWhile Char.isDigit) with
  | .error cause => .error (.notANumber (String.ofList s) cause)
  | .ok n =>
    if unit = ['m', 's'] then .ok n
    else if unit = ['s'] ∨ unit = [] then .ok (1000 * n)
    else if unit = ['m'] then
      if 60 * n ≤ Json.maxUInt64 then .ok (60000 * n) else .error (.tooLarge (String.ofList s))
    else .error (.unknownUnit (String.ofList unit))

/-- Reads a configuration from a lookup of variables. -/
def fromLookup (lookup : String → Option String) : Except ConfigError Config := do
  let text (name default : String) := (lookup name).getD default
  let defaultSize ← (Integer.readNat Json.maxUInt64
    (text "QUARRY_DEFAULT_PAGE_SIZE" "10").toList).mapError .defaultSize
  let maxSize ← (readMaxSize (text "QUARRY_MAX_PAGE_SIZE" "100")).mapError .maxSize
  let maxConnections ← (Integer.readNat (2 ^ 32 - 1)
    (text "DATABASE_MAX_CONNECTIONS" "5").toList).mapError .connections
  let timeout ← (readTimeout (text "QUARRY_STATEMENT_TIMEOUT" "10s")).mapError .timeout
  return ⟨defaultSize, maxSize, lookup "QUARRY_CATALOG", lookup "DATABASE_URL", maxConnections,
    timeout⟩

/-- How many rows a page may have. -/
def policy (c : Config) : PagingPolicy := ⟨c.defaultSize, c.maxSize⟩

end Config
end RowQuery
