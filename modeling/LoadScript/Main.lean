import LoadScript.Command.Invocation

/-!
# The program

Gathers the surroundings of an invocation from the host, lets the invocation run
on them, and prints what the user sees.
-/

namespace LoadScript.Command

/-- The number of an error of the host, which gives some of them negated. -/
def errorNumber (code : UInt32) : UInt32 :=
  if code < 0x80000000 then code else 0 - code

/-- The fault that an error of the host stands for. -/
def faultOf : IO.Error → ReadFault
  | .noFileOrDirectory .. => .notFound
  | .inappropriateType _ code _ =>
      if errorNumber code = 21 then .isADirectory else .notADirectory
  | .invalidArgument _ code details =>
      if errorNumber code = 36 then .tooLong else .other details.toList
  | error => .other (toString error).toList

/-- The text that some bytes hold. -/
def textOf (bytes : ByteArray) : Except ReadFault Text :=
  match String.fromUTF8? bytes with
  | some text => .ok text.toList
  | none => .error .notText

/-- Reads a file of the host. -/
def fetch (path : Text) : IO (Except ReadFault Text) := do
  if path.contains '\x00' then return .error .unusablePath
  try return textOf (← IO.FS.readBinFile (String.ofList path))
  catch error => return .error (faultOf error)

/-- Whether the host has something at a path.  The path is followed and what it
leads to is not opened, so a file that may not be read is found as well. -/
def fetchPresence (path : Text) : IO Bool := do
  try
    let _ ← IO.FS.realPath (String.ofList path)
    return true
  catch _ => return false

/-- A variable of the host's environment. -/
def fetchVariable (name : String) : IO (Option Text) := do
  return (← IO.getEnv name).map String.toList

/-- The paths that an invocation may look at. -/
def Arguments.paths (arguments : Arguments) (named settings : Option Text) : List Text :=
  arguments.files ++ arguments.prelude.toList ++ named.toList ++
    settings.toList.map (joinPath · "prelude.qvs".toList) ++ ["./.qvsrc".toList]

/-- Reads the standard input if a script comes from it. -/
def fetchInput (arguments : Arguments) : IO (Except ReadFault Text) := do
  if arguments.sources.contains .input then
    return textOf (← (← IO.getStdin).readBinToEnd)
  else return .ok []

/-- Gathers the surroundings of an invocation. -/
def fetchSurroundings (arguments : Arguments) : IO Surroundings := do
  let named ← fetchVariable "QVS_PRELUDE"
  let settings :=
    settingsDirectory? (← fetchVariable "XDG_CONFIG_HOME") (← fetchVariable "HOME")
  let paths := arguments.paths named settings
  let texts ← paths.mapM fun path => do return (path, ← fetch path)
  let present ← paths.filterM fetchPresence
  return {
    read := fun path => (texts.lookup path).getD (.error .notFound)
    isThere := fun path => present.contains path
    preludeVariable := named
    settingsDirectory := settings
    input := ← fetchInput arguments }

/-- Prints what the user sees. -/
def Exit.print (exit : Exit) : IO UInt32 := do
  for message in exit.messages do
    IO.eprintln (String.ofList message)
  IO.print (String.ofList exit.output)
  return exit.status.toUInt32

end LoadScript.Command

open LoadScript Command in
/-- Runs the scripts that the command line names. -/
def main (arguments : List String) : IO UInt32 := do
  let arguments := arguments.map String.toList
  match Arguments.ofList arguments with
  | .error error => Exit.print ⟨error.exitStatus, error.output, error.message?.toList⟩
  | .ok parsed =>
      let surroundings ← fetchSurroundings parsed
      (parsed.perform surroundings (← fetchVariable "RUST_LOG")).print
