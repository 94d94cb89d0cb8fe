import RowQuery.Program.Basic
/-!
The command line program.
-/

namespace RowQuery

/-- The text of a file, none if it cannot be read as text. -/
def fileText? (path : String) : IO (Option String) := do
  try
    return some (← IO.FS.readFile path)
  catch _ => return none

/-- The text of the input, none if it cannot be read as text. -/
def inputText? : IO (Option String) := do
  try
    return some (← (← IO.getStdin).readToEnd)
  catch _ => return none

/-- The first settings file of the working directory and the directories above it. -/
def settingsText? : IO (Option String) := do
  let depth := ((← IO.currentDir).toString.toList.filter fun c => c == '/').length
  let candidates := (List.range (depth + 1)).map fun n =>
    String.join (List.replicate n "../") ++ ".env"
  for path in candidates do
    if let some text ← fileText? path then return some text
  return none

/-- The system that the program runs on. -/
def system : System IO where
  fileText := fileText?
  inputText := inputText?
  variableText := fun name => IO.getEnv name
  settingsText := settingsText?

end RowQuery

/-- Runs the program on its arguments. -/
def main (args : List String) : IO UInt32 := do
  let outcome ← RowQuery.Program.run RowQuery.system args
  IO.print outcome.output
  if let some message := outcome.message then IO.eprintln ("Error: " ++ message)
  return UInt32.ofNat outcome.code
