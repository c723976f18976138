import LoadScript.Run
import Mathlib.Data.List.Range

/-!
# Stepping through a script

Whatever the forms of a registry do to the variables and to the number of the next
statement, the step with number `k` of a script handles the statement with number
`k`.  A run is therefore read off the numbers of its steps: its visits are those of
`0, …, n - 1`, and a run that is finished after `k` steps makes those of
`k, …, n - 1`.

The main statement, `orderly_start`, collects this for every registry, script and
store.
-/

namespace LoadScript

/-- The step that follows from what became of a statement and its expanded text. -/
def Step.ofDispatch (index : Nat) (statement : Statement) (text : Text) : Dispatch → Step
  | .executed form => .executed index form
  | .refused fault reason => .diagnosed ⟨index, statement.text, text, fault, reason⟩

namespace Run

/-! ## What one step does -/

section Taken

variable {run : Run} {statement : Statement}
  (found : run.statements[run.state.next]? = some statement)

include found

theorem step_of_isBlank (blank : statement.isBlank = true) :
    run.step = (.skipped run.state.next, run.goTo run.state.vars (run.state.next + 1)) := by
  simp only [step, found, if_pos blank]

/-- A statement that is not blank is offered to the registry. -/
theorem step_of_not_isBlank (shown : ¬statement.isBlank = true) :
    run.step =
      (.ofDispatch run.state.next statement (expanded run.state.vars statement)
        (run.registry.dispatch (expanded run.state.vars statement) run.state).1,
      run.goTo (run.registry.dispatch (expanded run.state.vars statement) run.state).2.vars
        (run.state.next + 1)) := by
  simp only [step, found, if_neg shown]
  split
  · rename_i dispatched
    rw [dispatched]
    rfl
  · rename_i dispatched
    rw [dispatched]
    rfl

end Taken

/-- What a step may do with a statement: which outcome it reports and which
variables it leaves. -/
inductive Handles (registry : Registry) (statement : Statement) (vars : Store) :
    Step → Store → Prop where
  /-- A blank statement is skipped. -/
  | skipped (blank : ∀ c ∈ statement.text, Text.isBlank c = true) :
      Handles registry statement vars (.skipped statement.index) vars
  /-- A form executes the expanded statement. -/
  | executed {form : Text} {state : State}
      (shown : ¬∀ c ∈ statement.text, Text.isBlank c = true)
      (dispatched : registry.dispatch (expanded vars statement) ⟨vars, statement.index⟩ =
        (.executed form, state)) :
      Handles registry statement vars (.executed statement.index form) state.vars
  /-- The expanded statement is refused. -/
  | diagnosed {fault : Fault} {reason : Text} {state : State}
      (shown : ¬∀ c ∈ statement.text, Text.isBlank c = true)
      (dispatched : registry.dispatch (expanded vars statement) ⟨vars, statement.index⟩ =
        (.refused fault reason, state)) :
      Handles registry statement vars
        (.diagnosed ⟨statement.index, statement.text, expanded vars statement, fault, reason⟩)
        state.vars

theorem isBlank_iff {statement : Statement} :
    statement.isBlank = true ↔ ∀ c ∈ statement.text, Text.isBlank c = true := by
  rw [Statement.isBlank, Text.isAllBlank, List.all_eq_true]

/-- A step handles the statement whose number is next. -/
theorem handles_step {run : Run} {statement : Statement}
    (found : run.statements[run.state.next]? = some statement)
    (numbered : statement.index = run.state.next) :
    Handles run.registry statement run.state.vars run.step.1 run.step.2.state.vars := by
  have sameState : run.state = ⟨run.state.vars, statement.index⟩ := by rw [numbered]
  simp only [step, found]
  split
  · rename_i blank
    rw [← numbered]
    exact .skipped (isBlank_iff.mp blank)
  · rename_i shown
    rw [isBlank_iff] at shown
    split
    · rename_i form state dispatched
      rw [sameState] at dispatched
      rw [← numbered]
      change Handles _ _ _ _ state.vars
      exact .executed shown dispatched
    · rename_i fault reason state dispatched
      rw [sameState] at dispatched
      rw [← numbered]
      change Handles _ _ _ _ state.vars
      exact .diagnosed shown dispatched

namespace Handles

variable {registry : Registry} {statement : Statement} {vars vars' : Store} {step : Step}

theorem ne_halted (handles : Handles registry statement vars step vars') : step ≠ .halted := by
  cases handles <;> simp

/-- Exactly the blank statements are skipped. -/
theorem eq_skipped_iff (handles : Handles registry statement vars step vars') :
    step = .skipped statement.index ↔ ∀ c ∈ statement.text, Text.isBlank c = true := by
  cases handles with
  | skipped blank => exact iff_of_true rfl blank
  | executed shown _ => exact iff_of_false (by simp) shown
  | diagnosed shown _ => exact iff_of_false (by simp) shown

theorem vars_eq_of_skipped (handles : Handles registry statement vars step vars') {k : Nat}
    (skipped : step = .skipped k) : vars' = vars := by
  cases handles with
  | skipped _ => rfl
  | executed _ _ => simp at skipped
  | diagnosed _ _ => simp at skipped

/-- A diagnostic carries the number of its statement. -/
theorem index_of_diagnostic (handles : Handles registry statement vars step vars')
    {diagnostic : Diagnostic} (reported : step.diagnostic? = some diagnostic) :
    diagnostic.index = statement.index := by
  cases handles with
  | skipped _ => simp [Step.diagnostic?] at reported
  | executed _ _ => simp [Step.diagnostic?] at reported
  | diagnosed _ _ =>
      obtain rfl := Option.some.inj reported
      rfl

end Handles

/-! ## The run after some steps -/

/-- The run after a number of steps. -/
def after (run : Run) (k : Nat) : Run :=
  (take k run).2

/-- The visit that the step with number `k` makes. -/
def visit (run : Run) (k : Nat) : Visit :=
  ⟨run.after k, (run.after k).step.1⟩

@[simp]
theorem after_zero (run : Run) : run.after 0 = run :=
  rfl

theorem after_succ (run : Run) (k : Nat) : run.after (k + 1) = (run.after k).step.2 := by
  unfold after
  rw [take_add]
  rfl

theorem after_add (run : Run) (j k : Nat) : run.after (j + k) = (run.after j).after k := by
  unfold after
  rw [take_add]

/-- The visits of a run are read off the numbers of its steps. -/
theorem visits_take (k : Nat) (run : Run) : (take k run).1 = (List.range k).map run.visit := by
  induction k with
  | zero => rfl
  | succ k ih =>
      rw [take_add, List.range_succ, List.map_append, ih]
      rfl

@[simp]
theorem statements_after (run : Run) (k : Nat) : (run.after k).statements = run.statements := by
  induction k with
  | zero => rfl
  | succ k ih => rw [after_succ, statements_step, ih]

@[simp]
theorem registry_after (run : Run) (k : Nat) : (run.after k).registry = run.registry := by
  induction k with
  | zero => rfl
  | succ k ih => rw [after_succ, registry_step, ih]

theorem diagnosticsOf_eq (visits : List Visit) :
    diagnosticsOf visits = (visits.map Visit.step).filterMap Step.diagnostic? := by
  rw [List.filterMap_map]
  rfl

theorem diagnosticsOf_range'_append (run : Run) (first count more : Nat) :
    diagnosticsOf ((List.range' first count).map run.visit) ++
        diagnosticsOf ((List.range' (first + count) more).map run.visit) =
      diagnosticsOf ((List.range' first (count + more)).map run.visit) := by
  rw [diagnosticsOf, diagnosticsOf, ← List.filterMap_append, ← List.map_append,
    List.range'_append_1]
  rfl

/-! ## Runs from the first statement on -/

section Fresh

variable {run : Run} (fresh : run.state.next = 0)

include fresh

/-- The number of the next statement counts the steps taken, up to the end. -/
theorem next_after (k : Nat) : (run.after k).state.next = min k run.statements.length := by
  induction k with
  | zero => simpa using fresh
  | succ k ih =>
      rw [after_succ]
      by_cases halted : (run.after k).isHalted = true
      · rw [step_of_isHalted halted, ih]
        have past : run.statements.length ≤ min k run.statements.length := by
          simpa [isHalted, ih] using halted
        omega
      · rw [next_step (Bool.eq_false_iff.mpr halted), ih]
        have before : min k run.statements.length < run.statements.length := by
          simpa [isHalted, ih] using halted
        omega

/-- After `k` steps the statement with number `k` is next. -/
theorem found_after {k : Nat} {statement : Statement}
    (found : run.statements[k]? = some statement) :
    (run.after k).state.next = k ∧
      (run.after k).statements[(run.after k).state.next]? = some statement := by
  have bound := (List.getElem?_eq_some_iff.mp found).1
  have next : (run.after k).state.next = k := by
    rw [next_after fresh]
    exact Nat.min_eq_left (Nat.le_of_lt bound)
  refine ⟨next, ?_⟩
  rw [next, statements_after]
  exact found

theorem isHalted_after_iff (k : Nat) :
    (run.after k).isHalted = true ↔ run.statements.length ≤ k := by
  rw [isHalted, decide_eq_true_eq, statements_after, next_after fresh]
  omega

/-- Once all statements are handled a step does nothing. -/
theorem step_after_of_le {k : Nat} (past : run.statements.length ≤ k) :
    (run.after k).step = (.halted, run.after k) :=
  step_of_isHalted ((isHalted_after_iff fresh k).mpr past)

theorem after_of_le {k : Nat} (past : run.statements.length ≤ k) :
    run.after k = run.after run.statements.length := by
  induction k, past using Nat.le_induction with
  | base => rfl
  | succ k past ih => rw [after_succ, step_after_of_le fresh past, ih]

theorem remaining_after (k : Nat) : (run.after k).remaining = run.statements.length - k := by
  rw [remaining, statements_after, next_after fresh]
  omega

/-- A run that is finished after some steps makes the visits that are left. -/
theorem visits_finish_after (k : Nat) :
    (run.after k).finish.1 = (List.range' k (run.statements.length - k)).map run.visit := by
  rw [finish, visits_take, remaining_after fresh, List.range'_eq_map_range, List.map_map]
  apply List.map_congr_left
  intro j _
  simp only [visit, Function.comp_apply, after_add]

theorem visits_finish :
    run.finish.1 = (List.range' 0 run.statements.length).map run.visit :=
  visits_finish_after fresh 0

theorem final_finish_after (k : Nat) :
    (run.after k).finish.2 = run.after run.statements.length := by
  change (run.after k).after (run.after k).remaining = _
  rw [remaining_after fresh, ← after_add]
  exact after_of_le fresh (by omega)

theorem final_finish : run.finish.2 = run.after run.statements.length :=
  final_finish_after fresh 0

/-- Steps past the end report nothing. -/
theorem diagnosticsOf_past {first : Nat} (count : Nat) (past : run.statements.length ≤ first) :
    diagnosticsOf ((List.range' first count).map run.visit) = [] := by
  rw [diagnosticsOf, List.filterMap_map, List.filterMap_eq_nil_iff]
  intro k member
  have bound := (List.mem_range'_1.mp member).1
  simp [visit, step_after_of_le fresh (past.trans bound), Step.diagnostic?]

/-- The diagnostics of a run can be collected in two parts, however many steps the
first one takes. -/
theorem diagnosticsOf_take_append (k : Nat) :
    diagnosticsOf (take k run).1 ++ diagnosticsOf (run.after k).finish.1 =
      diagnosticsOf run.finish.1 := by
  rw [visits_take, visits_finish_after fresh, visits_finish fresh, List.range_eq_range']
  rcases Nat.le_total k run.statements.length with inside | past
  · have joined := diagnosticsOf_range'_append run 0 k (run.statements.length - k)
    rwa [Nat.zero_add, Nat.add_sub_cancel' inside] at joined
  · have joined := diagnosticsOf_range'_append run 0 run.statements.length
      (k - run.statements.length)
    rw [Nat.zero_add, Nat.add_sub_cancel' past,
      diagnosticsOf_past fresh _ (Nat.le_refl _), List.append_nil] at joined
    rw [Nat.sub_eq_zero_of_le past, ← joined]
    exact List.append_nil _

end Fresh

/-- Finishing a run is taking steps until one finds no statement. -/
theorem finish_eq (run : Run) :
    run.finish =
      if run.isHalted then ([], run)
      else (⟨run, run.step.1⟩ :: run.step.2.finish.1, run.step.2.finish.2) := by
  split
  · rename_i halted
    have none : run.remaining = 0 := by
      simpa [isHalted, remaining, Nat.sub_eq_zero_iff_le] using halted
    rw [finish, none, take]
  · rename_i going
    have inside : run.state.next < run.statements.length := by simpa [isHalted] using going
    have one : run.remaining = run.step.2.remaining + 1 := by
      rw [remaining, remaining, statements_step, next_step (Bool.eq_false_iff.mpr going)]
      omega
    rw [finish, one, take]
    rfl

end Run

/-! ## Counts -/

/-- Every step that finds a statement is counted once. -/
theorem Summary.sum_ofSteps (statements : Nat) {steps : List Step}
    (going : ∀ step ∈ steps, step ≠ .halted) :
    (ofSteps statements steps).executed + (ofSteps statements steps).skipped +
      (ofSteps statements steps).diagnostics = steps.length := by
  simp only [ofSteps]
  induction steps with
  | nil => rfl
  | cons step steps ih =>
      have rest := ih fun other member => going other (List.mem_cons_of_mem step member)
      cases step with
      | halted => exact absurd rfl (going .halted List.mem_cons_self)
      | _ =>
          simp [List.countP_cons, List.filterMap_cons, Step.isExecuted, Step.isSkipped,
            Step.diagnostic?]
          omega

namespace Run

/-! ## The steps of a script -/

section Start

variable (registry : Registry) (vars : Store) (source : Text)

/-- The step with number `k` handles the statement with number `k`. -/
theorem handles_start {k : Nat} (bound : k < (Statement.listOf (Script.clean source)).length) :
    ∃ statement, (Statement.listOf (Script.clean source))[k]? = some statement ∧
      statement.index = k ∧
      Handles registry statement ((start registry vars source).after k).state.vars
        ((start registry vars source).after k).step.1
        ((start registry vars source).after k).step.2.state.vars := by
  obtain ⟨statement, found⟩ : ∃ statement,
      (Statement.listOf (Script.clean source))[k]? = some statement :=
    ⟨_, List.getElem?_eq_getElem bound⟩
  have numbered := Statement.index_of_getElem? found
  have fresh : (start registry vars source).state.next = 0 := rfl
  rcases found_after fresh found with ⟨next, atNext⟩
  have handles := handles_step atNext (numbered.trans next.symm)
  rw [registry_after] at handles
  exact ⟨statement, found, numbered, handles⟩

theorem step_ne_halted {k : Nat} (bound : k < (Statement.listOf (Script.clean source)).length) :
    ((start registry vars source).after k).step.1 ≠ .halted := by
  rcases handles_start registry vars source bound with ⟨_, _, _, handles⟩
  exact handles.ne_halted

/-- The diagnostics of a script come in the order of its statements. -/
theorem pairwise_index_diagnosticsOf (first count : Nat) :
    ((diagnosticsOf ((List.range' first count).map (start registry vars source).visit)).map
      Diagnostic.index).Pairwise (· < ·) := by
  -- Each diagnostic carries the number of the step that reported it.
  have numbered : ∀ k diagnostic,
      ((start registry vars source).after k).step.1.diagnostic? = some diagnostic →
        diagnostic.index = k := by
    intro k diagnostic reported
    by_cases bound : k < (Statement.listOf (Script.clean source)).length
    · rcases handles_start registry vars source bound with ⟨_, _, index, handles⟩
      exact (handles.index_of_diagnostic reported).trans index
    · have halted : ((start registry vars source).after k).step = (.halted, _) :=
        step_after_of_le rfl (Nat.le_of_not_lt bound)
      rw [halted] at reported
      simp [Step.diagnostic?] at reported
  rw [diagnosticsOf, List.filterMap_map, List.pairwise_map]
  apply List.Pairwise.filterMap _ _ (List.pairwise_lt_range' _)
  intro j k before left leftReported right rightReported
  rw [numbered j left leftReported, numbered k right rightReported]
  exact before

theorem sum_summaryOf_finish (k : Nat) :
    ((start registry vars source).after k).finish.1.length =
      (((start registry vars source).after k).summaryOf
        ((start registry vars source).after k).finish.1).executed +
      (((start registry vars source).after k).summaryOf
        ((start registry vars source).after k).finish.1).skipped +
      (((start registry vars source).after k).summaryOf
        ((start registry vars source).after k).finish.1).diagnostics := by
  have going : ∀ step ∈ ((start registry vars source).after k).finish.1.map Visit.step,
      step ≠ .halted := by
    intro step member
    rw [visits_finish_after rfl, List.map_map] at member
    rcases List.mem_map.mp member with ⟨j, inside, rfl⟩
    apply step_ne_halted
    have bounds := List.mem_range'_1.mp inside
    change k ≤ j ∧ j < k + ((Statement.listOf (Script.clean source)).length - k) at bounds
    omega
  have counted := Summary.sum_ofSteps ((start registry vars source).after k).statements.length going
  rw [List.length_map] at counted
  exact counted.symm

end Start

/-- A run goes through its statements one by one, and finishing it after some steps
does what is left of finishing it at once. -/
structure Orderly (run : Run) : Prop where
  /-- The step with number `k` handles the statement with number `k` and goes on to
  the next one. -/
  handled : ∀ k < run.statements.length, ∃ statement, run.statements[k]? = some statement ∧
    statement.index = k ∧ (run.after k).state.next = k ∧
    Handles run.registry statement (run.after k).state.vars (run.after k).step.1
      (run.after k).step.2.state.vars ∧
    (run.after k).step.2.state.next = k + 1
  /-- Exactly the blank statements are skipped, and they change no variable. -/
  skipped : ∀ k statement, run.statements[k]? = some statement →
    ((run.after k).step.1 = .skipped k ↔ ∀ c ∈ statement.text, Text.isBlank c = true) ∧
    ((run.after k).step.1 = .skipped k →
      (run.after k).step.2.state.vars = (run.after k).state.vars)
  /-- A step past the last statement does nothing. -/
  ended : ∀ k ≥ run.statements.length, (run.after k).step = (.halted, run.after k)
  /-- The run is over when the next number is past the last statement. -/
  halted : ∀ k, (run.after k).isHalted = true ↔ run.statements.length ≤ (run.after k).state.next
  /-- Finishing takes steps until none is left to take. -/
  finished : ∀ k, (run.after k).finish =
    if (run.after k).isHalted then ([], run.after k)
    else (run.visit k :: (run.after (k + 1)).finish.1, (run.after (k + 1)).finish.2)
  /-- After `k` steps the rest of the visits is made. -/
  visits : ∀ k, (run.after k).finish.1 = run.finish.1.drop k
  /-- After `k` steps the same variables are reached. -/
  vars : ∀ k, (run.after k).finish.2.state.vars = run.finish.2.state.vars
  /-- The diagnostics of `k` steps and of the rest are those of the whole run. -/
  diagnostics : ∀ k, diagnosticsOf (take k run).1 ++ diagnosticsOf (run.after k).finish.1 =
    diagnosticsOf run.finish.1
  /-- Every statement that is left is counted once. -/
  counted : ∀ k, ((run.after k).summaryOf (run.after k).finish.1).executed +
    ((run.after k).summaryOf (run.after k).finish.1).skipped +
    ((run.after k).summaryOf (run.after k).finish.1).diagnostics =
      run.statements.length - min k run.statements.length
  /-- Every diagnostic that is handed on is counted. -/
  reported : ∀ k, ((run.after k).summaryOf (run.after k).finish.1).diagnostics =
    (diagnosticsOf (run.after k).finish.1).length
  /-- Diagnostics come in the order of the statements. -/
  increasing : ∀ k,
    ((diagnosticsOf (run.after k).finish.1).map Diagnostic.index).Pairwise (· < ·)

/-- Whatever the forms of a registry do, a script is gone through statement by
statement. -/
theorem orderly_start (registry : Registry) (vars : Store) (source : Text) :
    (start registry vars source).statements = Statement.listOf (Script.clean source) ∧
      (start registry vars source).registry = registry ∧
      Orderly (start registry vars source) := by
  refine ⟨rfl, rfl, ?_⟩
  constructor
  case handled =>
    intro k bound
    rcases handles_start registry vars source bound with ⟨statement, found, numbered, handles⟩
    refine ⟨statement, found, numbered, ?_, handles, ?_⟩
    · rw [next_after rfl]
      exact Nat.min_eq_left (Nat.le_of_lt bound)
    · rw [← after_succ, next_after rfl]
      exact Nat.min_eq_left bound
  case skipped =>
    intro k statement found
    have bound := (List.getElem?_eq_some_iff.mp found).1
    rcases handles_start registry vars source bound with ⟨handled, atPlace, rfl, handles⟩
    obtain rfl : handled = statement := Option.some.inj (atPlace.symm.trans found)
    exact ⟨handles.eq_skipped_iff, handles.vars_eq_of_skipped⟩
  case ended => exact fun k past => step_after_of_le rfl past
  case halted =>
    intro k
    rw [isHalted, decide_eq_true_eq, statements_after]
  case finished =>
    intro k
    rw [finish_eq, after_succ]
    rfl
  case visits =>
    intro k
    rw [visits_finish_after rfl, visits_finish rfl, ← List.map_drop, List.drop_range',
      Nat.zero_add, Nat.mul_one]
  case vars =>
    intro k
    rw [final_finish_after rfl, final_finish rfl]
  case diagnostics => exact fun k => diagnosticsOf_take_append rfl k
  case counted =>
    intro k
    rw [← sum_summaryOf_finish, visits_finish_after rfl, List.length_map, List.length_range']
    omega
  case reported =>
    intro k
    rw [summaryOf, Summary.ofSteps, diagnosticsOf_eq]
  case increasing =>
    intro k
    rw [visits_finish_after rfl]
    exact pairwise_index_diagnosticsOf registry vars source k _

end Run

end LoadScript
