import LoadScript.Session
import LoadScript.Text.Quoted

/-!
# The log

A run tells what it does in log lines.  Every line has a level, and only the lines
up to a threshold are shown.
-/

namespace LoadScript.Command

open Text

/-- How much a log line matters. -/
inductive Level where
  | error
  | warn
  | info
  | debug
  | trace
deriving DecidableEq

namespace Level

/-- The place of a level, most important first. -/
def place : Level → Nat
  | .error => 1
  | .warn => 2
  | .info => 3
  | .debug => 4
  | .trace => 5

/-- The name of a level. -/
def text : Level → Text
  | .error => "ERROR".toList
  | .warn => "WARN".toList
  | .info => "INFO".toList
  | .debug => "DEBUG".toList
  | .trace => "TRACE".toList

end Level

/-- The least important level that is shown, if any is. -/
abbrev Threshold := Option Level

/-- Whether a level is shown. -/
def Threshold.shows (threshold : Threshold) (level : Level) : Bool :=
  threshold.any fun limit => level.place ≤ limit.place

/-- Reads a threshold: a level in any letter case, `off`, or nothing at all, which
shows errors only. -/
def Threshold.ofText? (text : Text) : Option Threshold :=
  let word := text.map Char.toLower
  if word.isEmpty then some (some .error)
  else if word = "off".toList then some none
  else
    ([Level.error, .warn, .info, .debug, .trace].find? fun level =>
      level.text.map Char.toLower == word).map some

/-- What happens in a run. -/
inductive Event where
  /-- The prelude is about to run. -/
  | preludeStarted (path : Text)
  /-- A script has been cut into statements. -/
  | scriptLoaded (statements : Nat)
  /-- A reference leads nowhere. -/
  | unresolved (name : Text)
  /-- Filling in references changed a statement. -/
  | expanded (index : Nat) (before after : Text)
  /-- A variable was assigned. -/
  | assigned (index : Nat) (name : Text) (value : Value)
  /-- A statement was not executed. -/
  | diagnosed (diagnostic : Diagnostic)
  /-- A diagnostic is reported for its script. -/
  | reported (source : Text) (diagnostic : Diagnostic)
  /-- A script has come to its end. -/
  | scriptFinished (summary : Summary)
  /-- A script of the command line has come to its end. -/
  | scriptDone (source : Text) (summary : Summary)

namespace Event

/-- The level of an event. -/
def level : Event → Level
  | .reported .. => .warn
  | .unresolved .. | .expanded .. => .trace
  | _ => .debug

/-- A message in which controls that a terminal could obey are shown by number. -/
def harmless (message : Text) : Text :=
  message.flatMap fun c =>
    if c.toNat ∈ [0x07, 0x08, 0x0C, 0x1B, 0x7F] then
      '\\' :: 'x' :: (hexDigits c.toNat).leftpad 2 '0'
    else if 0x80 ≤ c.toNat && c.toNat ≤ 0x9F then numbered c
    else [c]

/-- The counts of a run in words. -/
def summaryText (summary : Summary) : Text :=
  "RunSummary \x7b statements: ".toList ++ decimalDigits summary.statements ++
    ", executed: ".toList ++ decimalDigits summary.executed ++
    ", skipped: ".toList ++ decimalDigits summary.skipped ++
    ", diagnostics: ".toList ++ decimalDigits summary.diagnostics ++ " \x7d".toList

/-- What an event says, and the details that go with it. -/
def content : Event → Text × List (String × Text)
  | .preludeStarted path => ("running prelude".toList, [("path", path)])
  | .scriptLoaded statements =>
      ("script loaded".toList, [("statements", decimalDigits statements)])
  | .unresolved name =>
      ("undefined variable left unexpanded".toList, [("name", quoted name)])
  | .expanded index before after =>
      ("expanded".toList, [("pc", decimalDigits index), ("from", before), ("to", after)])
  | .assigned index name value =>
      ("assign".toList,
        [("pc", decimalDigits index), ("name", quoted name), ("value", value.text),
          ("ty", quoted value.typeName)])
  | .diagnosed diagnostic => ("diagnostic".toList, [("diag", diagnostic.message)])
  | .reported source diagnostic =>
      (harmless diagnostic.message,
        [("source", quoted source), ("index", decimalDigits diagnostic.index),
          ("kind", diagnostic.fault.text)])
  | .scriptFinished summary => ("script finished".toList, [("summary", summaryText summary)])
  | .scriptDone source summary =>
      ("script done".toList, [("source", source), ("summary", summaryText summary)])

/-- The log line of an event. -/
def line (event : Event) : Text :=
  let (message, details) := event.content
  event.level.text.leftpad 5 ' ' ++ ' ' :: message ++
    details.flatMap fun (name, detail) => ' ' :: (name.toList ++ '=' :: detail)

/-! ## The events of a script -/

/-- What a step that took a statement tells: the references that lead nowhere, the
change that the others made, and what became of the statement. -/
def ofStatement (vars : Store) (statement : Statement) (step : Step) : List Event :=
  let after := Run.expanded vars statement
  let unresolved := (Template.ofText statement.text).unresolved vars.referenceText?
  let changed :=
    if after = statement.text then []
    else [Event.expanded statement.index statement.text after]
  let ending :=
    match step with
    | .executed index _ =>
        (Assignment.ofText? after).toList.map fun (name, value) =>
          Event.assigned index name (.coerce value)
    | .diagnosed diagnostic => [Event.diagnosed diagnostic]
    | _ => []
  unresolved.map Event.unresolved ++ changed ++ ending

/-- What a step tells. -/
def ofVisit (visit : Run.Visit) : List Event :=
  let vars := visit.before.state.vars
  match visit.step, visit.before.statements[visit.before.state.next]? with
  | .skipped _, _ | .halted, _ | _, none => []
  | step, some statement => ofStatement vars statement step

/-- What a script tells from its first statement to its end.  The steps are told
one after the other, each followed by what `report` adds for it. -/
def ofScript (completion : Completion) (report : Diagnostic → List Event) : List Event :=
  Event.scriptLoaded completion.summary.statements ::
    (completion.visits.flatMap fun visit =>
      ofVisit visit ++ (visit.step.diagnostic?.map report).getD []) ++
    [Event.scriptFinished completion.summary]

end Event

end LoadScript.Command
