import LoadScript.Proofs.AssignmentGrammar
import LoadScript.Proofs.NormalForm
import LoadScript.Proofs.Replacement
import LoadScript.Proofs.WrittenScript

/-!
# Scripts of one assignment

A script that consists of a single assignment, with single spaces between its parts and a
terminator behind it, is cut into that one statement.  References may stand in the text of
the value only.  The main statement, `exec_assignment`, says that running such a script writes
the expanded text of the value.
-/

namespace LoadScript

open Text

namespace Assignment

/-- An assignment with single spaces between its parts. -/
def spaced (verb name source : Text) : Text :=
  verb ++ ' ' :: (name ++ ' ' :: '=' :: ' ' :: source)

section Spaced

variable {verb name : Text} (spelled : Verb verb) (target : Target name)

include spelled target

theorem spells_spaced (source : Text) : Spells (spaced verb name source) name source :=
  ⟨[], verb, [' '], [' '], [' '], rfl, by simp, spelled, gap_space, target, gap_space, gap_space⟩

theorem headCount_spaced (source : Text) :
    headCount (spaced verb name source) = 1 + innerHeads (' ' :: source) := by
  rw [headCount, spaced, head?_assignment spelled target,
    innerHeads_assignment (fun c member => spelled.isBlank_eq_false member)
      (fun c member => target.isBlank_eq_false member)]
  rfl

/-- A character that belongs to no word and does not stand between them stands in the value. -/
theorem mem_spaced_iff {c : Char} (noLetter : isLetter (fold c) = false)
    (notInName : isNameChar c = false) (noSpace : c ≠ ' ') (noEquals : c ≠ '=') {source : Text} :
    c ∈ spaced verb name source ↔ c ∈ source := by
  have notInVerb : c ∉ verb := by
    intro member
    rw [spelled.isLetter_fold member] at noLetter
    contradiction
  have notInTarget : c ∉ name := by
    cases name with
    | nil => exact List.not_mem_nil
    | cons first name =>
        rintro (_ | ⟨_, member⟩)
        · rw [target.1] at noLetter
          contradiction
        · rw [target.2 c member] at notInName
          contradiction
  simp [spaced, notInVerb, notInTarget, noSpace, noEquals]

/-- References stand in the value only. -/
theorem expand_spaced (lookup : Text → Option Text) (source : Text) :
    expand lookup (spaced verb name source) = spaced verb name (expand lookup source) := by
  have front : ∀ text, spaced verb name text = spaced verb name [] ++ text := by
    intro text
    simp [spaced]
  have noDollar : '$' ∉ spaced verb name [] := by
    rw [mem_spaced_iff spelled target (by decide) (by decide) (by decide) (by decide)]
    exact List.not_mem_nil
  rw [front source, expand_append_of_dollar_not_mem noDollar, ← front]

omit target in
theorem not_isBlank_spaced (source : Text) (index : Nat) :
    ¬Statement.isBlank ⟨index, spaced verb name source⟩ = true := by
  rw [Run.isBlank_iff]
  intro blank
  rcases List.exists_mem_of_ne_nil verb spelled.ne_nil with ⟨c, inVerb⟩
  have isBlank := blank c (List.mem_append_left _ inVerb)
  rw [spelled.isBlank_eq_false inVerb] at isBlank
  contradiction

end Spaced

end Assignment

/-! ## Running the script -/

namespace Run

open Assignment

/-- A run over one statement takes one step. -/
theorem finish_of_single (run : Run) {statement : Statement}
    (alone : run.statements = [statement]) (fresh : run.state.next = 0) :
    run.finish = ([⟨run, run.step.1⟩], run.step.2) := by
  have one : run.remaining = 1 := by simp [remaining, alone, fresh]
  rw [finish, one]
  rfl

/-- The step over an assignment writes the expanded text of the value. -/
theorem step_spaced {run : Run} {verb name source : Text} (standard : run.registry = .standard)
    (spelled : Verb verb) (target : Target name)
    (found : run.statements[run.state.next]? = some ⟨run.state.next, spaced verb name source⟩)
    (noHead : innerHeads (' ' :: expand run.state.vars.referenceText? source) = 0) :
    run.step = (.executed run.state.next form.name,
      run.goTo (run.state.vars.set name (.coerce (expand run.state.vars.referenceText? source)))
        (run.state.next + 1)) := by
  have expands : expanded run.state.vars ⟨run.state.next, spaced verb name source⟩ =
      spaced verb name (expand run.state.vars.referenceText? source) :=
    expand_spaced spelled target run.state.vars.referenceText? source
  generalize expand run.state.vars.referenceText? source = raw at *
  have spells := spells_spaced spelled target raw
  have oneHead : ¬1 < headCount (spaced verb name raw) := by
    rw [headCount_spaced spelled target, noHead]
    exact Nat.lt_irrefl 1
  have executes := spells.execute_eq oneHead run.state
  have dispatches := dispatch_of_executed spells.claims_eq (congrArg Prod.fst executes)
  rw [executes] at dispatches
  rw [step_of_not_isBlank found (not_isBlank_spaced spelled source _), expands, standard,
    dispatches]
  rfl

end Run

namespace Session

open Assignment

/-- An assignment that is a whole script writes the expanded text of its value, and nothing is
reported. -/
theorem exec_assignment {vars : Store} {verb name source : Text} (spelled : Verb verb)
    (target : Target name) (normal : Script.Normal (spaced verb name source ++ [terminator]))
    (noTerminator : terminator ∉ source)
    (noHead : innerHeads (' ' :: expand vars.referenceText? source) = 0) :
    ((Session.mk .standard vars).exec (spaced verb name source ++ [terminator])).diagnostics = [] ∧
    ((Session.mk .standard vars).exec (spaced verb name source ++ [terminator])).session =
      ⟨.standard, vars.set name (.coerce (expand vars.referenceText? source))⟩ := by
  have absent : terminator ∉ spaced verb name source := by
    rwa [mem_spaced_iff spelled target (by decide) (by decide) (by decide) (by decide)]
  have cut : Statement.listOf (Script.clean (spaced verb name source ++ [terminator])) =
      [⟨0, spaced verb name source⟩] := by
    have noTerminators : ∀ text ∈ [spaced verb name source] ++ [[]], terminator ∉ text := by
      simpa using absent
    have joined := Statement.listOf_intercalate [spaced verb name source] noTerminators
    rw [Script.clean_of_normal normal]
    simpa using joined
  have found : (Run.start .standard vars (spaced verb name source ++ [terminator])).statements[0]? =
      some ⟨0, spaced verb name source⟩ := by
    rw [Run.start, cut]
    rfl
  have single := Run.finish_of_single
    (.start .standard vars (spaced verb name source ++ [terminator])) cut rfl
  rw [Run.step_spaced rfl spelled target found noHead] at single
  constructor
  · rw [Completion.diagnostics, exec, start, single]
    rfl
  · rw [exec, start, single]
    rfl

end Session

end LoadScript
