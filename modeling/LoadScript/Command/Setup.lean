import LoadScript.Command.Arguments
import LoadScript.Name
import LoadScript.Text.Quoted
import LoadScript.Value.Basic

/-!
# Setting up a session

Before the scripts run, variables are seeded from definitions of the form
`NAME=VALUE` and a prelude is chosen.
-/

namespace LoadScript.Command

open Text

/-- How the prelude is chosen. -/
inductive PreludeChoice where
  /-- The first of the usual places. -/
  | search
  /-- No prelude. -/
  | skip
  /-- A given file. -/
  | explicit (path : Text)
deriving DecidableEq

/-- What is wrong with a definition. -/
inductive SetupError where
  /-- A definition without an equals sign. -/
  | malformedDefinition (definition : Text)
  /-- The part before the equals sign is no name. -/
  | invalidName (name : Text)
deriving DecidableEq

/-- The message of an error. -/
def SetupError.message : SetupError → Text
  | .malformedDefinition definition =>
      "invalid definition ".toList ++ quoted definition ++ ": expected NAME=VALUE".toList
  | .invalidName name => "invalid variable name ".toList ++ quoted name

/-- Reads a definition: the name, and the value as an assignment would take
it. -/
def readDefinition (definition : Text) : Except SetupError (Text × Value) :=
  match cutAt? '=' definition with
  | none => .error (.malformedDefinition definition)
  | some (name, value) =>
      let name := trim name
      if isName name then .ok (name, .coerce value) else .error (.invalidName name)

/-- What happens before the scripts run. -/
structure Setup where
  /-- How the prelude is chosen. -/
  prelude : PreludeChoice := .search
  /-- The variables to seed, in order. -/
  seeds : List (Text × Value) := []

namespace Arguments

/-- The choice of the prelude. -/
def preludeChoice (arguments : Arguments) : PreludeChoice :=
  if arguments.noPrelude then .skip
  else
    match arguments.prelude with
    | some path => .explicit path
    | none => .search

/-- The setup that the arguments ask for. -/
def setup (arguments : Arguments) : Except SetupError Setup := do
  return { prelude := arguments.preludeChoice, seeds := ← arguments.defines.mapM readDefinition }

end Arguments

end LoadScript.Command
