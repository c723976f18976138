import LoadScript.Form.Assignment
import LoadScript.Run

/-!
# Sessions

A session keeps the variables between scripts, so that one script can prepare
what the next one uses.
-/

namespace LoadScript

/-- Forms, and the variables left by the scripts run so far. -/
structure Session where
  /-- The forms that statements are offered to. -/
  registry : Registry := .standard
  /-- The variables. -/
  vars : Store := .empty

/-- What running a script to its end yields. -/
structure Completion where
  /-- The session after the script. -/
  session : Session
  /-- The steps taken. -/
  visits : List Run.Visit
  /-- The counts of the steps. -/
  summary : Summary

/-- The diagnostics of a script, in order. -/
def Completion.diagnostics (completion : Completion) : List Diagnostic :=
  Run.diagnosticsOf completion.visits

namespace Session

/-- Writes a variable directly. -/
def set (name : Text) (value : Value) (session : Session) : Session :=
  { session with vars := session.vars.set name value }

/-- The run of a script, before its first step. -/
def start (session : Session) (source : Text) : Run :=
  .start session.registry session.vars source

/-- Runs a script to its end. -/
def exec (session : Session) (source : Text) : Completion :=
  let run := session.start source
  let (visits, final) := run.finish
  { session := { session with vars := final.state.vars }
    visits := visits
    summary := run.summaryOf visits }

end Session

end LoadScript
