import LoadScript.Text.Basic

/-!
# Command-line arguments

The command line mixes switches and files.  A switch is written with a short or a
long name; one that takes a value has it attached, after an equals sign or not,
or as the next argument.  Short names without values can be written together.
After a double hyphen everything is a file.

A value, or a run of files, is checked only once the next switch is met or the
arguments end.  An unknown switch is therefore reported before a bad value in
front of it.
-/

namespace LoadScript.Command

/-- The switches of the command line. -/
inductive Switch where
  | command
  | define
  | prelude
  | noPrelude
  | json
  | strict
  | quiet
  | debug
  | help
  | version
deriving DecidableEq

namespace Switch

/-- All switches. -/
def all : List Switch :=
  [.command, .define, .prelude, .noPrelude, .json, .strict, .quiet, .debug, .help, .version]

/-- The long name of a switch, without its hyphens. -/
def longName : Switch → Text
  | .command => "command".toList
  | .define => "define".toList
  | .prelude => "prelude".toList
  | .noPrelude => "no-prelude".toList
  | .json => "json".toList
  | .strict => "strict".toList
  | .quiet => "quiet".toList
  | .debug => "debug".toList
  | .help => "help".toList
  | .version => "version".toList

/-- The short name of a switch that has one. -/
def shortName? : Switch → Option Char
  | .command => some 'c'
  | .define => some 'D'
  | .prelude => some 'p'
  | .quiet => some 'q'
  | .debug => some 'd'
  | .help => some 'h'
  | .version => some 'V'
  | .noPrelude | .json | .strict => none

/-- What stands for the value of a switch that takes one. -/
def placeholder? : Switch → Option Text
  | .command => some "TEXT".toList
  | .define => some "NAME=VALUE".toList
  | .prelude => some "FILE".toList
  | _ => none

/-- Whether a switch takes a value. -/
def takesValue (switch : Switch) : Bool :=
  switch.placeholder?.isSome

/-- A switch as messages show it. -/
def shown (switch : Switch) : Text :=
  "--".toList ++ switch.longName ++
    match switch.placeholder? with
    | some placeholder => " <".toList ++ placeholder ++ ['>']
    | none => []

/-- The switch with a long name. -/
def ofLong? (name : Text) : Option Switch :=
  all.find? fun switch => switch.longName == name

/-- The switch with a short name. -/
def ofShort? (name : Char) : Option Switch :=
  all.find? fun switch => switch.shortName? == some name

end Switch

/-- What the command line asks for. -/
structure Arguments where
  /-- The script files, in order. -/
  files : List Text := []
  /-- Script text given on the command line. -/
  command : Option Text := none
  /-- Definitions of variables, as written. -/
  defines : List Text := []
  /-- The prelude to run. -/
  prelude : Option Text := none
  /-- Run no prelude. -/
  noPrelude : Bool := false
  /-- Show the variables in JSON. -/
  json : Bool := false
  /-- Diagnostics show in the exit status. -/
  strict : Bool := false
  /-- Show no variables. -/
  quiet : Bool := false
  /-- Log more. -/
  debug : Bool := false
deriving DecidableEq

/-- Why the arguments do not lead to a run. -/
inductive UsageError where
  /-- A switch that is not known. -/
  | unknown (argument : Text)
  /-- A value is missing, or an empty path was given. -/
  | missingValue (holder : Text)
  /-- A value was attached to a switch that takes none. -/
  | unneededValue (switch : Switch) (value : Text)
  /-- A switch was given twice that may be given once. -/
  | repeated (switch : Switch)
  /-- Two switches exclude each other. -/
  | conflict (first second : Switch)
  /-- The arguments ask for the help text. -/
  | help
  /-- The arguments ask for the version. -/
  | version
deriving DecidableEq

/-! ## Reading -/

/-- What has been read but not checked. -/
inductive Pending where
  /-- Nothing. -/
  | nothing
  /-- A switch that takes a value, with the value once that is read. -/
  | value (switch : Switch) (value : Option Text)
  /-- A run of files. -/
  | files (paths : List Text)

/-- The arguments read so far. -/
structure Draft where
  /-- The arguments that are checked. -/
  arguments : Arguments := {}
  /-- The switches among them, in order. -/
  given : List Switch := []
  /-- What is not checked yet. -/
  pending : Pending := .nothing

/-- How messages show the files. -/
def filesShown : Text :=
  "[FILE]...".toList

namespace Draft

/-- Notes a switch that may be given once. -/
def note (switch : Switch) (draft : Draft) : Except UsageError Draft :=
  if draft.given.contains switch then .error (.repeated switch)
  else .ok { draft with given := draft.given ++ [switch] }

/-- Changes the checked arguments. -/
def modify (change : Arguments → Arguments) (draft : Draft) : Draft :=
  { draft with arguments := change draft.arguments }

/-- Checks a switch with its value. -/
def giveValue (switch : Switch) (value : Text) (draft : Draft) : Except UsageError Draft :=
  match switch with
  | .command => do
      return (← draft.note .command).modify fun a => { a with command := some value }
  | .define => return draft.modify fun a => { a with defines := a.defines ++ [value] }
  | .prelude => do
      let draft ← draft.note .prelude
      if value.isEmpty then throw (.missingValue switch.shown)
      return draft.modify fun a => { a with prelude := some value }
  | _ => throw (.unneededValue switch value)

/-- Checks a run of files. -/
def giveFiles (paths : List Text) (draft : Draft) : Except UsageError Draft :=
  if paths.any List.isEmpty then .error (.missingValue filesShown)
  else .ok (draft.modify fun a => { a with files := a.files ++ paths })

/-- Checks what is not checked yet. -/
def settle (draft : Draft) : Except UsageError Draft :=
  let settled := { draft with pending := .nothing }
  match draft.pending with
  | .nothing => .ok settled
  | .value switch none => .error (.missingValue switch.shown)
  | .value switch (some value) => settled.giveValue switch value
  | .files paths => settled.giveFiles paths

/-- Reads a switch without a value. -/
def giveFlag (switch : Switch) (draft : Draft) : Except UsageError Draft := do
  let draft ← draft.settle
  match switch with
  | .help => throw .help
  | .version => throw .version
  | .noPrelude => return (← draft.note switch).modify fun a => { a with noPrelude := true }
  | .json => return (← draft.note switch).modify fun a => { a with json := true }
  | .strict => return (← draft.note switch).modify fun a => { a with strict := true }
  | .quiet => return (← draft.note switch).modify fun a => { a with quiet := true }
  | .debug => return (← draft.note switch).modify fun a => { a with debug := true }
  | .command | .define | .prelude => throw (.missingValue switch.shown)

/-- Reads a switch with its value attached. -/
def giveAttached (switch : Switch) (value : Text) (draft : Draft) : Except UsageError Draft := do
  (← draft.settle).giveValue switch value

/-- Reads a switch whose value is the next argument. -/
def awaitValue (switch : Switch) (draft : Draft) : Except UsageError Draft := do
  return { ← draft.settle with pending := .value switch none }

/-- Reads a file. -/
def giveFile (path : Text) (draft : Draft) : Except UsageError Draft :=
  match draft.pending with
  | .files paths => .ok { draft with pending := .files (paths ++ [path]) }
  | _ => do return { ← draft.settle with pending := .files [path] }

/-- Reads a long switch, without its hyphens. -/
def readLong (argument : Text) (draft : Draft) : Except UsageError Draft :=
  let (name, value) :=
    match Text.cutAt? '=' argument with
    | some (name, value) => (name, some value)
    | none => (argument, none)
  match Switch.ofLong? name, value with
  | none, _ => .error (.unknown ("--".toList ++ name))
  | some switch, none =>
      if switch.takesValue then draft.awaitValue switch else draft.giveFlag switch
  | some switch, some value =>
      if switch.takesValue then draft.giveAttached switch value
      else .error (.unneededValue switch value)

/-- Reads short switches that are written together, without their hyphen. -/
def readShort : Text → Draft → Except UsageError Draft
  | [], draft => .ok draft
  | name :: rest, draft =>
      match Switch.ofShort? name with
      | none => .error (.unknown ['-', name])
      | some switch =>
          if switch.takesValue then
            match rest with
            | [] => draft.awaitValue switch
            | '=' :: value => draft.giveAttached switch value
            | value => draft.giveAttached switch value
          else do readShort rest (← draft.giveFlag switch)

/-- Reads an argument before the double hyphen. -/
def readArgument (argument : Text) (draft : Draft) : Except UsageError Draft :=
  match argument with
  | '-' :: '-' :: long => draft.readLong long
  | '-' :: first :: rest => readShort (first :: rest) draft
  | _ =>
      match draft.pending with
      | .value switch none => .ok { draft with pending := .value switch (some argument) }
      | _ => draft.giveFile argument

/-- Reads arguments.  The flag says whether only files follow. -/
def readAll : (filesOnly : Bool) → List Text → Draft → Except UsageError Draft
  | _, [], draft => draft.settle
  | true, argument :: rest, draft => do readAll true rest (← draft.giveFile argument)
  | false, argument :: rest, draft =>
      if argument = ['-', '-'] then readAll true rest draft
      else do readAll false rest (← draft.readArgument argument)

/-- Refuses switches that exclude each other, the one given first first. -/
def refuseConflicts (draft : Draft) : Except UsageError Arguments :=
  match draft.given.filter fun switch => switch == .prelude || switch == .noPrelude with
  | first :: second :: _ => .error (.conflict first second)
  | _ => .ok draft.arguments

end Draft

/-- Reads the arguments of a command line, the program's name excluded. -/
def Arguments.ofList (arguments : List Text) : Except UsageError Arguments := do
  (← Draft.readAll false arguments {}).refuseConflicts

end LoadScript.Command
