import LoadScript.Form.Basic
import LoadScript.Script
import LoadScript.Statement
import LoadScript.Template

/-!
# Runs

A run takes the statements of a script one after the other.  A blank statement is
skipped; any other has its references filled in and is offered to the registry,
and if it is not executed it is reported.  Every step goes on to the next
statement, whatever a form does to the number of the next one, so a run ends
after as many steps as there are statements.
-/

namespace LoadScript

/-- What a step did. -/
inductive Step where
  /-- A form executed the statement. -/
  | executed (index : Nat) (form : Text)
  /-- The statement is blank. -/
  | skipped (index : Nat)
  /-- The statement was not executed. -/
  | diagnosed (diagnostic : Diagnostic)
  /-- There is no statement left. -/
  | halted
deriving DecidableEq

namespace Step

/-- The diagnostic of a step that has one. -/
def diagnostic? : Step → Option Diagnostic
  | .diagnosed diagnostic => some diagnostic
  | _ => none

/-- Whether a form executed the statement. -/
def isExecuted : Step → Bool
  | .executed _ _ => true
  | _ => false

/-- Whether the statement was blank. -/
def isSkipped : Step → Bool
  | .skipped _ => true
  | _ => false

end Step

/-- The counts of a run. -/
structure Summary where
  /-- The number of statements of the script. -/
  statements : Nat
  /-- The number of statements executed. -/
  executed : Nat
  /-- The number of blank statements. -/
  skipped : Nat
  /-- The number of statements reported. -/
  diagnostics : Nat
deriving DecidableEq

/-- The counts of some steps over a script of a given length. -/
def Summary.ofSteps (statements : Nat) (steps : List Step) : Summary where
  statements := statements
  executed := steps.countP Step.isExecuted
  skipped := steps.countP Step.isSkipped
  diagnostics := (steps.filterMap Step.diagnostic?).length

/-- A script in progress. -/
structure Run where
  /-- The forms that statements are offered to. -/
  registry : Registry
  /-- The statements of the script. -/
  statements : List Statement
  /-- The variables and the number of the next statement. -/
  state : State

namespace Run

/-- A run at the beginning of a script. -/
def start (registry : Registry) (vars : Store) (source : Text) : Run where
  registry := registry
  statements := Statement.listOf (Script.clean source)
  state := { vars := vars }

/-- Whether there is no statement left. -/
def isHalted (run : Run) : Bool :=
  run.statements.length ≤ run.state.next

/-- The number of statements left. -/
def remaining (run : Run) : Nat :=
  run.statements.length - run.state.next

/-- The run with its state at a given statement and with given variables. -/
def goTo (run : Run) (vars : Store) (next : Nat) : Run :=
  { run with state := { vars := vars, next := next } }

/-- A statement with its references filled in from the variables. -/
def expanded (vars : Store) (statement : Statement) : Text :=
  expand vars.referenceText? statement.text

/-- Takes the next statement. -/
def step (run : Run) : Step × Run :=
  let index := run.state.next
  match run.statements[index]? with
  | none => (.halted, run)
  | some statement =>
      if statement.isBlank then (.skipped index, run.goTo run.state.vars (index + 1))
      else
        let text := expanded run.state.vars statement
        match run.registry.dispatch text run.state with
        | (.executed form, state) => (.executed index form, run.goTo state.vars (index + 1))
        | (.refused fault reason, state) =>
            (.diagnosed ⟨index, statement.text, text, fault, reason⟩,
              run.goTo state.vars (index + 1))

/-- A run without statements left stays as it is. -/
theorem step_of_isHalted {run : Run} (halted : run.isHalted) : run.step = (.halted, run) := by
  have past : run.statements[run.state.next]? = none :=
    List.getElem?_eq_none (by simpa [isHalted] using halted)
  simp [step, past]

/-- A step keeps the statements. -/
@[simp]
theorem statements_step (run : Run) : run.step.2.statements = run.statements := by
  simp only [step]
  split
  · rfl
  · split
    · rfl
    · split <;> rfl

/-- A step keeps the forms. -/
@[simp]
theorem registry_step (run : Run) : run.step.2.registry = run.registry := by
  simp only [step]
  split
  · rfl
  · split
    · rfl
    · split <;> rfl

/-- A step over a statement goes on to the next one, whatever its form does. -/
theorem next_step {run : Run} (going : run.isHalted = false) :
    run.step.2.state.next = run.state.next + 1 := by
  have inside : run.state.next < run.statements.length := by simpa [isHalted] using going
  simp only [step, List.getElem?_eq_getElem inside]
  split
  · rfl
  · split <;> rfl

/-- A step together with the run it was taken on. -/
structure Visit where
  /-- The run before the step. -/
  before : Run
  /-- What the step did. -/
  step : Step

/-- Takes a number of steps. -/
def take : Nat → Run → List Visit × Run
  | 0, run => ([], run)
  | count + 1, run =>
      let (step, next) := run.step
      let (visits, final) := take count next
      (⟨run, step⟩ :: visits, final)

/-- Steps can be taken in two parts. -/
theorem take_add (first second : Nat) (run : Run) :
    take (first + second) run =
      ((take first run).1 ++ (take second (take first run).2).1,
        (take second (take first run).2).2) := by
  induction first generalizing run with
  | zero => simp [take]
  | succ first ih =>
      rw [Nat.succ_add]
      simp [take, ih]

/-- Takes all steps that are left. -/
def finish (run : Run) : List Visit × Run :=
  take run.remaining run

/-- The diagnostics of some visits, in order. -/
def diagnosticsOf (visits : List Visit) : List Diagnostic :=
  visits.filterMap fun visit => visit.step.diagnostic?

/-- The counts of some visits of a run. -/
def summaryOf (run : Run) (visits : List Visit) : Summary :=
  .ofSteps run.statements.length (visits.map Visit.step)

end Run

end LoadScript
