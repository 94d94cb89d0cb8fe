import RowQuery.Program.Invocation
import RowQuery.Program.Settings
/-!
The program: from a command line to what it prints.

The configuration is read first, for every command. Then come the catalog, the request and the
command, as far as they are needed, and the first of them that fails is reported.
-/

namespace RowQuery

/-- What the program needs of the system it runs on. A file that cannot be read as text is none. -/
structure System (m : Type → Type) where
  fileText : String → m (Option String)
  inputText : m (Option String)
  variableText : String → m (Option String)
  /-- The text with further variables, for those that are not set. -/
  settingsText : m (Option String)

/-- Why the program fails. -/
inductive ProgramError where
  /-- The settings give a variable a value that it cannot have. -/
  | badSetting
  | config (cause : ConfigError)
  | noCatalog
  | catalogFile (path : String)
  | load (cause : LoadError)
  | requestInput
  | requestFile (path : String)
  | command (cause : CommandError)
deriving DecidableEq, Repr

/-- The text of an error. -/
def ProgramError.message : ProgramError → String
  | badSetting => ""
  | config _ => "failed to load configuration"
  | noCatalog => "no catalog given; pass --catalog or set QUARRY_CATALOG"
  | catalogFile path => s!"failed to read catalog {path}"
  | load cause => cause.message
  | requestInput => "failed to read request from stdin"
  | requestFile path => s!"failed to read request {path}"
  | command cause => cause.message

/-- Whether the program is given up, so that it leaves no message. -/
def ProgramError.givesUp : ProgramError → Bool
  | badSetting | command (.query .aborted) => true
  | _ => false

/-- What the program leaves behind. -/
structure Outcome where
  /-- The exit code. -/
  code : Nat
  output : String
  /-- The text of the error, if there was one. -/
  message : Option String
deriving DecidableEq

namespace Program

/-! ### Running -/

variable {m : Type → Type} [Monad m]

/-- A value that has to be there. -/
def need {α : Type} (error : ProgramError) (x : m (Option α)) : ExceptT ProgramError m α := do
  match ← (x : ExceptT ProgramError m (Option α)) with
  | some a => return a
  | none => throw error

/-- The outcome of a step that cannot fail but for its own error. -/
def step {ε α : Type} (wrap : ε → ProgramError) (x : Except ε α) : ExceptT ProgramError m α :=
  ExceptT.mk (pure (x.mapError wrap))

/-- The configuration of a system. -/
def readConfig (sys : System m) : ExceptT ProgramError m Config := do
  let text : Option String ← sys.settingsText
  let settings := Settings.ofText (text.getD "")
  let set ← (Config.names ++ Settings.names settings).filterMapM fun name => do
    let value : Option String ← sys.variableText name
    return value.map fun v => (name, v)
  match Settings.addTo? set settings with
  | none => throw .badSetting
  | some set => step .config (Config.fromLookup (Settings.lookup set))

/-- The compiler for the catalog of an invocation. -/
def loadCompiler (sys : System m) (config : Config) (catalog : Option String) :
    ExceptT ProgramError m Compiler := do
  match catalog.or config.catalogPath with
  | none => throw .noCatalog
  | some path =>
    let text ← need (.catalogFile path) (sys.fileText path)
    step .load (Compiler.load config.policy text)

/-- The text of a request: a dash means the input, an at sign the file named after it. -/
def readRequest (sys : System m) (argument : String) : ExceptT ProgramError m String :=
  match argument.toList with
  | ['-'] => need .requestInput sys.inputText
  | '@' :: path => need (.requestFile (String.ofList path)) (sys.fileText (String.ofList path))
  | _ => pure argument

/-- The answer to an invocation. -/
def answer (sys : System m) (i : Invocation) : ExceptT ProgramError m Json.Value := do
  let config ← readConfig sys
  match i.command with
  | .decodeCursor => step .command (Command.showCursor i.argument)
  | .compile =>
    let compiler ← loadCompiler sys config i.catalog
    let request ← readRequest sys i.argument
    step .command (Command.compilePage compiler request)
  | .aggregate =>
    let compiler ← loadCompiler sys config i.catalog
    let request ← readRequest sys i.argument
    step .command (Command.compileAggregate compiler request)
  | .run =>
    let _ ← loadCompiler sys config i.catalog
    let request ← readRequest sys i.argument
    step .command (Command.runPage config request)

/-- What an error leaves behind. -/
def failure (e : ProgramError) : Outcome :=
  if e.givesUp then ⟨101, "", none⟩ else ⟨1, "", some e.message⟩

/-- Runs the program. A wrong command line has an exit code of its own, and so has a program that is
given up. -/
def run (sys : System m) (args : List String) : m Outcome :=
  match Invocation.parse? args with
  | none => pure ⟨2, "", none⟩
  | some i => do
    match ← (answer sys i).run with
    | .ok v => return ⟨0, v.indentedText ++ "\n", none⟩
    | .error e => return failure e

end Program
end RowQuery
