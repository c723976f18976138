import LoadScript.Command.Help
import LoadScript.Command.Log
import LoadScript.Command.Surroundings
import LoadScript.Store.Json
import LoadScript.Store.Table

/-!
# Running the command line

An invocation seeds variables, runs the prelude and then every script of the
command line on the same variables, and shows the variables at the end.  It stops
at the first text that cannot be read.  Everything it takes from outside is in its
arguments and its surroundings.
-/

namespace LoadScript.Command

/-- Where the text of a script comes from. -/
inductive Source where
  /-- A file. -/
  | file (path : Text)
  /-- The standard input. -/
  | input
  /-- The command line itself. -/
  | text (text : Text)
deriving DecidableEq

/-- How the log names a source. -/
def Source.label : Source → Text
  | .file path => path
  | .input => "<stdin>".toList
  | .text _ => "<command>".toList

/-- The scripts to run: the files, where a hyphen is the standard input, and then
the text of the command line; the standard input if there is none of these. -/
def Arguments.sources (arguments : Arguments) : List Source :=
  let files := arguments.files.map fun path =>
    if path = ['-'] then Source.input else Source.file path
  let sources := files ++ arguments.command.toList.map Source.text
  if sources.isEmpty then [.input] else sources

/-- Why an invocation came to no end. -/
inductive RunError where
  /-- A definition is wrong. -/
  | setup (error : SetupError)
  /-- The prelude cannot be read. -/
  | readPrelude (path : Text) (fault : ReadFault)
  /-- A script cannot be read. -/
  | readScript (path : Text) (fault : ReadFault)
  /-- The standard input cannot be read. -/
  | readInput (fault : ReadFault)
deriving DecidableEq

/-- The message of an error. -/
def RunError.message : RunError → Text
  | .setup error => error.message
  | .readPrelude path fault =>
      "cannot read prelude ".toList ++ path ++ ": ".toList ++ fault.text
  | .readScript path fault => "cannot read ".toList ++ path ++ ": ".toList ++ fault.text
  | .readInput fault => "cannot read standard input: ".toList ++ fault.text

/-- What an invocation that came to its end yields. -/
structure Report where
  /-- The variables. -/
  vars : Store
  /-- The number of diagnostics of all scripts. -/
  diagnostics : Nat

/-- An invocation in progress. -/
structure Progress where
  /-- The session, with the variables so far. -/
  session : Session := {}
  /-- The number of diagnostics so far. -/
  diagnostics : Nat := 0
  /-- What has happened so far. -/
  events : List Event := []
  /-- Whether the standard input has been read. -/
  inputSpent : Bool := false

/-- What happened in an invocation, and what it came to. -/
structure Account where
  /-- What happened. -/
  events : List Event
  /-- The report, or the error that ended the invocation. -/
  result : Except RunError Report

namespace Progress

/-- Seeds variables. -/
def seed (seeds : List (Text × Value)) (progress : Progress) : Progress :=
  { progress with
    session := seeds.foldl (fun session (name, value) => session.set name value)
      progress.session }

/-- Runs the prelude.  Its diagnostics are reported once it has run. -/
def runPrelude (path source : Text) (progress : Progress) : Progress :=
  let completion := progress.session.exec source
  let reports := completion.diagnostics.map (Event.reported "<prelude>".toList)
  { progress with
    session := completion.session
    diagnostics := progress.diagnostics + completion.diagnostics.length
    events := progress.events ++ [Event.preludeStarted path] ++
      Event.ofScript completion (fun _ => []) ++ reports }

/-- Runs a script of the command line.  Its diagnostics are reported as they
occur. -/
def runScript (label source : Text) (progress : Progress) : Progress :=
  let completion := progress.session.exec source
  { progress with
    session := completion.session
    diagnostics := progress.diagnostics + completion.diagnostics.length
    events := progress.events ++
      Event.ofScript completion (fun diagnostic => [Event.reported label diagnostic]) ++
      [Event.scriptDone label completion.summary] }

/-- Reads the text of a source.  All of the standard input goes to the first
source that reads it. -/
def readSource (surroundings : Surroundings) (progress : Progress) :
    Source → Except RunError (Text × Progress)
  | .file path =>
      match surroundings.read path with
      | .ok text => .ok (text, progress)
      | .error fault => .error (.readScript path fault)
  | .input =>
      if progress.inputSpent then .ok ([], progress)
      else
        match surroundings.input with
        | .ok text => .ok (text, { progress with inputSpent := true })
        | .error fault => .error (.readInput fault)
  | .text text => .ok (text, progress)

/-- Runs the scripts of the command line in order. -/
def runSources (surroundings : Surroundings) : List Source → Progress → Account
  | [], progress =>
      ⟨progress.events, .ok ⟨progress.session.vars, progress.diagnostics⟩⟩
  | source :: rest, progress =>
      match progress.readSource surroundings source with
      | .error error => ⟨progress.events, .error error⟩
      | .ok (text, progress) =>
          runSources surroundings rest (progress.runScript source.label text)

end Progress

/-- Runs what the arguments ask for. -/
def Arguments.run (arguments : Arguments) (surroundings : Surroundings) : Account :=
  match arguments.setup with
  | .error error => ⟨[], .error (.setup error)⟩
  | .ok setup =>
      let seeded := Progress.seed setup.seeds {}
      match surroundings.preludePath? setup.prelude with
      | none => seeded.runSources surroundings arguments.sources
      | some path =>
          match surroundings.read path with
          | .error fault => ⟨[], .error (.readPrelude path fault)⟩
          | .ok text =>
              (seeded.runPrelude path text).runSources surroundings arguments.sources

/-- The exit status of an invocation that came to its end: diagnostics show in it
only on demand. -/
def Arguments.exitStatus (arguments : Arguments) (report : Report) : Nat :=
  if arguments.strict && 0 < report.diagnostics then 2 else 0

/-- How the arguments ask to show the variables. -/
def Arguments.rendering (arguments : Arguments) (vars : Store) : Text :=
  if arguments.quiet then []
  else if arguments.json then vars.json ++ ['\n']
  else vars.table

/-- The threshold of the log: what the environment says, else more or less
according to the arguments. -/
def Arguments.threshold (arguments : Arguments) (logVariable : Option Text) : Threshold :=
  (logVariable.bind Threshold.ofText?).getD
    (some (if arguments.debug then .debug else .warn))

/-- What a user sees of an invocation. -/
structure Exit where
  /-- The exit status. -/
  status : Nat
  /-- The standard output. -/
  output : Text
  /-- The entries of the log and the message of an error, each of them printed with
  a line end behind it. -/
  messages : List Text

/-- The lines of the messages.  A message with line ends in it fills several. -/
def Exit.lines (exit : Exit) : List Text :=
  exit.messages.flatMap Text.lines

/-- What a user sees of an invocation with valid arguments. -/
def Arguments.perform (arguments : Arguments) (surroundings : Surroundings)
    (logVariable : Option Text) : Exit :=
  let account := arguments.run surroundings
  let threshold := arguments.threshold logVariable
  let log := (account.events.filter fun event => threshold.shows event.level).map Event.line
  match account.result with
  | .error error => ⟨1, [], log ++ ["qvs: ".toList ++ error.message]⟩
  | .ok report => ⟨arguments.exitStatus report, arguments.rendering report.vars, log⟩

/-- What a user sees of an invocation. -/
def perform (arguments : List Text) (surroundings : Surroundings) (logVariable : Option Text) :
    Exit :=
  match Arguments.ofList arguments with
  | .error error => ⟨error.exitStatus, error.output, error.message?.toList⟩
  | .ok arguments => arguments.perform surroundings logVariable

end LoadScript.Command
