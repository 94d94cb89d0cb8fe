import RowQuery.Command
/-!
Command lines.

A command stands with one argument; the option for the catalog may stand before the command or after
it, at most once in each of the two places, and the later one counts. An argument that begins with a
dash, other than the dash alone, is an option, unless two dashes stand before it.
-/

namespace RowQuery

/-- What a command line asks for. -/
structure Invocation where
  catalog : Option String
  command : Command
  argument : String
deriving DecidableEq

namespace Invocation

/-- The option for the catalog. -/
def catalogOption : String := "--catalog"

/-- What an option that holds its value begins with. -/
def catalogPrefix : List Char := (catalogOption ++ "=").toList

/-- Whether an argument is an option. -/
def isOption (arg : String) : Bool :=
  match arg.toList with
  | '-' :: _ :: _ => true
  | _ => false

/-- The value of an option for the catalog that holds it. -/
def attachedCatalog? (arg : String) : Option String :=
  if catalogPrefix.isPrefixOf arg.toList then
    some (String.ofList (arg.toList.drop catalogPrefix.length))
  else none

/-- Takes a catalog, if none was given before and it is no empty text. -/
def takeCatalog? (given : Option String) (value : String) : Option String :=
  if given.isSome || value.isEmpty then none else some value

/-- The catalog and the argument after a command, given those found so far. -/
def afterCommand? (catalog argument : Option String) :
    List String → Option (Option String × String)
  | [] => argument.map fun a => (catalog, a)
  | arg :: rest =>
    if arg = "--" then
      match argument, rest with
      | some a, [] => some (catalog, a)
      | none, [a] => some (catalog, a)
      | _, _ => none
    else if arg = catalogOption then
      match rest with
      | [] => none
      | value :: rest =>
        if isOption value then none
        else do
          let c ← takeCatalog? catalog value
          afterCommand? (some c) argument rest
    else match attachedCatalog? arg with
      | some value => do
        let c ← takeCatalog? catalog value
        afterCommand? (some c) argument rest
      | none =>
        if isOption arg || argument.isSome then none else afterCommand? catalog (some arg) rest

/-- What a command line asks for, given the catalog found so far. -/
def beforeCommand? (catalog : Option String) : List String → Option Invocation
  | [] => none
  | arg :: rest =>
    if arg = catalogOption then
      match rest with
      | [] => none
      | value :: rest =>
        if isOption value then none
        else do
          let c ← takeCatalog? catalog value
          beforeCommand? (some c) rest
    else match attachedCatalog? arg with
      | some value => do
        let c ← takeCatalog? catalog value
        beforeCommand? (some c) rest
      | none => do
        let command ← Command.ofName? arg
        let (later, argument) ← afterCommand? none none rest
        return ⟨later.or catalog, command, argument⟩

/-- What a command line asks for, if it is a right one. -/
def parse? (args : List String) : Option Invocation := beforeCommand? none args

end Invocation
end RowQuery
