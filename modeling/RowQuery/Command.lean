import RowQuery.Catalog.Document
import RowQuery.Compiler
import RowQuery.Config
import RowQuery.Request
/-!
The commands of the program: each takes the text of a request and gives a JSON value.

No database can be reached from here, so running a request ends at the latest where the connection
would be made.
-/

namespace RowQuery

/-- A command. -/
inductive Command where
  | compile
  | aggregate
  | decodeCursor
  | run
deriving DecidableEq, Repr

/-- The name of a command. -/
def Command.name : Command → String
  | compile => "compile"
  | aggregate => "aggregate"
  | decodeCursor => "decode-cursor"
  | run => "run"

/-- The command of a name. -/
def Command.ofName? (name : String) : Option Command :=
  [compile, aggregate, decodeCursor, run].find? fun c => c.name == name

/-- Why a command fails. -/
inductive CommandError where
  | query (cause : QueryError)
  | unreadableRequest
  | databaseRequired
  | notConnected
deriving DecidableEq, Repr

/-- The text of an error. -/
def CommandError.message : CommandError → String
  | query cause => cause.message
  | unreadableRequest => "failed to parse request"
  | databaseRequired => "DATABASE_URL environment variable is required for run"
  | notConnected => "failed to connect to database"

/-- The JSON form of a bound value. -/
def Sql.Param.toJson : Sql.Param → Json.Value
  | null => .null
  | bool b => .bool b
  | int i => .int i
  | float x => .float x
  | text s => .str s

/-- The members of a statement. -/
def Sql.Prepared.members (s : Sql.Prepared) : List (String × Json.Value) :=
  [("params", .arr (s.params.map Sql.Param.toJson)), ("sql", .str s.sql)]

namespace Command

/-- A request that could be read. -/
def readable {α : Type} (request? : Option α) : Except CommandError α :=
  match request? with
  | some r => .ok r
  | none => .error .unreadableRequest

/-- What does not compile. -/
def compiled {α : Type} (x : Except QueryError α) : Except CommandError α := x.mapError .query

/-- Compiles a request for a page. -/
def compilePage (c : Compiler) (text : String) : Except CommandError Json.Value := do
  let r ← readable (PageRequest.parse? text)
  let q ← compiled (c.page r.entity r.filter r.sort r.paging)
  let members := q.fetch.statement.prepared.members
    ++ [("fetchLimit", .nat q.plan.fetchLimit), ("plan", .str q.plan.method)]
  if r.totalCount then do
    let count ← compiled (c.count r.entity r.filter)
    return .obj (Dict.ofList (("count", .obj count.statement.prepared.members) :: members))
  else return .obj (Dict.ofList members)

/-- Compiles a request for aggregates. -/
def compileAggregate (c : Compiler) (text : String) : Except CommandError Json.Value := do
  let r ← readable (AggregateRequest.parse? text)
  let q ← compiled (c.aggregate r.entity r.filter r.spec)
  return .obj q.statement.prepared.members

/-- Shows what a cursor holds. -/
def showCursor (text : String) : Except CommandError Json.Value :=
  match Cursor.decode text with
  | .error fault => .error (.query (.cursor fault))
  | .ok (.position index) =>
    .ok (.obj [("kind", .str Cursor.positionKind), ("offset", .nat index)])
  | .ok (.keyset fields) =>
    .ok (.obj [("fields", .arr (fields.map KeyField.toJson)), ("kind", .str Cursor.keysetKind)])

/-- Checks a request that is to be run. -/
def runPage (config : Config) (text : String) : Except CommandError Json.Value := do
  let _ ← readable (PageRequest.parse? text)
  match config.databaseUrl with
  | none => throw .databaseRequired
  | some _ => throw .notConnected

end Command

/-- Why no compiler is loaded. -/
inductive LoadError where
  | catalog (cause : CatalogLoadError)
  | declaration (cause : RegistryError)
deriving DecidableEq, Repr

/-- The text of an error. -/
def LoadError.message : LoadError → String
  | catalog cause => cause.message
  | declaration _ => "invalid custom filter declaration"

/-- The compiler for the text of a catalog. -/
def Compiler.load (policy : PagingPolicy) (text : String) : Except LoadError Compiler := do
  let (catalog, declarations) ←
    (CatalogDocument.load (CatalogDocument.ofToml? text)).mapError .catalog
  let registry ← (Registry.empty.withDeclarations declarations).mapError .declaration
  return ⟨catalog, registry, policy⟩

end RowQuery
