import LoadScript.Proofs.Effects
import LoadScript.Proofs.Statements

/-!
# Scripts in two parts

The built-in forms do not look at the number of the next statement.  A run of some statements
therefore takes the same steps, under higher numbers, when these statements stand behind
others in a longer run, and a script does what its two parts do one after the other.

The main statement, `exec_append`, says this of all texts that are cleaned part by part, the
first of which does not leave a statement open.
-/

namespace LoadScript

/-- The diagnostic of a statement whose number is higher by `count`. -/
def Diagnostic.shift (count : Nat) (diagnostic : Diagnostic) : Diagnostic :=
  { diagnostic with index := diagnostic.index + count }

namespace Step

/-- The step over a statement whose number is higher by `count`. -/
def shift (count : Nat) : Step → Step
  | .executed index form => .executed (index + count) form
  | .skipped index => .skipped (index + count)
  | .diagnosed diagnostic => .diagnosed (diagnostic.shift count)
  | .halted => .halted

@[simp]
theorem shift_zero (step : Step) : step.shift 0 = step := by
  cases step <;> rfl

@[simp]
theorem diagnostic?_shift (count : Nat) (step : Step) :
    (step.shift count).diagnostic? = step.diagnostic?.map (Diagnostic.shift count) := by
  cases step <;> rfl

@[simp]
theorem isExecuted_shift (count : Nat) (step : Step) :
    (step.shift count).isExecuted = step.isExecuted := by
  cases step <;> rfl

@[simp]
theorem isSkipped_shift (count : Nat) (step : Step) :
    (step.shift count).isSkipped = step.isSkipped := by
  cases step <;> rfl

theorem filterMap_diagnostic?_shift (count : Nat) (steps : List Step) :
    (steps.map (shift count)).filterMap diagnostic? =
      (steps.filterMap diagnostic?).map (Diagnostic.shift count) := by
  rw [List.filterMap_map, List.map_filterMap]
  apply List.filterMap_congr
  intro step _
  exact diagnostic?_shift count step

end Step

/-- The counts of two parts of a script together. -/
def Summary.add (first second : Summary) : Summary where
  statements := first.statements + second.statements
  executed := first.executed + second.executed
  skipped := first.skipped + second.skipped
  diagnostics := first.diagnostics + second.diagnostics

/-- Counts add up, whatever the numbers of the statements are. -/
theorem Summary.ofSteps_append_shift (left right count : Nat) (first second : List Step) :
    ofSteps (left + right) (first ++ second.map (Step.shift count)) =
      (ofSteps left first).add (ofSteps right second) := by
  have executed : Step.isExecuted ∘ Step.shift count = Step.isExecuted :=
    funext (Step.isExecuted_shift count)
  have skipped : Step.isSkipped ∘ Step.shift count = Step.isSkipped :=
    funext (Step.isSkipped_shift count)
  simp only [ofSteps, add, List.countP_append, List.countP_map, executed, skipped,
    List.filterMap_append, Step.filterMap_diagnostic?_shift, List.length_append, List.length_map]

namespace Run

/-! ## A run within a longer one -/

/-- The run `part` within the run `whole`: it has the same variables, and its statements and
the next one among them stand in `whole` under numbers that are higher by `offset`. -/
structure Within (offset : Nat) (part whole : Run) : Prop where
  /-- The forms of the part are those built in. -/
  partForms : part.registry = .standard
  /-- The forms of the whole are those built in. -/
  wholeForms : whole.registry = .standard
  /-- The statements of the part stand in the whole. -/
  found : ∀ k statement, part.statements[k]? = some statement →
    whole.statements[k + offset]? = some (statement.shift offset)
  /-- The next statement is the same. -/
  next : whole.state.next = part.state.next + offset
  /-- The variables are the same. -/
  vars : whole.state.vars = part.state.vars

namespace Within

variable {offset : Nat} {part whole : Run}

/-- As long as the part has statements left, the whole takes its steps. -/
theorem step (within : Within offset part whole) (going : part.isHalted = false) :
    whole.step.1 = part.step.1.shift offset ∧ Within offset part.step.2 whole.step.2 := by
  have inside : part.state.next < part.statements.length := by simpa [isHalted] using going
  obtain ⟨statement, found⟩ : ∃ statement, part.statements[part.state.next]? = some statement :=
    ⟨_, List.getElem?_eq_getElem inside⟩
  have found' : whole.statements[whole.state.next]? = some (statement.shift offset) := by
    rw [within.next]
    exact within.found _ _ found
  have filled : expanded whole.state.vars (statement.shift offset) =
      expanded part.state.vars statement := by
    rw [within.vars]
    rfl
  have onward : part.state.next + offset + 1 = part.state.next + 1 + offset :=
    Nat.add_right_comm ..
  by_cases blank : statement.isBlank = true
  · rw [step_of_isBlank found blank, step_of_isBlank found' blank, within.next]
    exact ⟨rfl, within.partForms, within.wholeForms, within.found, onward, within.vars⟩
  · rw [step_of_not_isBlank found blank, step_of_not_isBlank found' blank, filled,
      within.partForms, within.wholeForms]
    -- The form of assignments is given other numbers in the two runs, but the same text.
    rcases Assignment.dispatch_standard_cases (expanded part.state.vars statement) with
      ⟨fault, reason, refused⟩ | ⟨name, raw, _, executed⟩
    · rw [refused, refused, within.next]
      exact ⟨rfl, within.partForms, within.wholeForms, within.found, onward, within.vars⟩
    · rw [executed, executed, within.next]
      exact ⟨rfl, within.partForms, within.wholeForms, within.found, onward,
        congrArg (Store.set name (.coerce raw)) within.vars⟩

/-- The whole takes the steps of the part until that is finished. -/
theorem take {count : Nat} (within : Within offset part whole) (bound : count ≤ part.remaining) :
    (Run.take count whole).1.map Visit.step =
        ((Run.take count part).1.map Visit.step).map (Step.shift offset) ∧
      Within offset (Run.take count part).2 (Run.take count whole).2 := by
  induction count generalizing part whole with
  | zero => exact ⟨rfl, within⟩
  | succ count ih =>
      have going : part.isHalted = false := by
        rw [remaining] at bound
        simp only [isHalted, decide_eq_false_iff_not]
        omega
      rcases within.step going with ⟨sameStep, stillWithin⟩
      have left : count ≤ part.step.2.remaining := by
        rw [remaining] at bound ⊢
        rw [statements_step, next_step going]
        omega
      rcases ih stillWithin left with ⟨sameSteps, atEnd⟩
      refine ⟨?_, atEnd⟩
      simp only [Run.take, List.map_cons, sameStep, sameSteps]

theorem finish (within : Within offset part whole) :
    (Run.take part.remaining whole).1.map Visit.step =
        (part.finish.1.map Visit.step).map (Step.shift offset) ∧
      Within offset part.finish.2 (Run.take part.remaining whole).2 :=
  within.take (Nat.le_refl _)

end Within

/-! ## Two runs, one after the other -/

/-- The run `whole` has the statements of `front` and then those of `back`, which goes on with
the variables that `front` leaves. -/
structure Joined (front back whole : Run) : Prop where
  /-- The forms of the first run are those built in. -/
  frontForms : front.registry = .standard
  /-- The forms of the second run are those built in. -/
  backForms : back.registry = .standard
  /-- The forms of the whole run are those built in. -/
  wholeForms : whole.registry = .standard
  /-- The statements of the second run stand behind those of the first. -/
  statements : whole.statements =
    front.statements ++ back.statements.map (Statement.shift front.statements.length)
  /-- The first run is at its beginning. -/
  frontNext : front.state.next = 0
  /-- The second run is at its beginning. -/
  backNext : back.state.next = 0
  /-- The whole run begins as the first one does. -/
  state : whole.state = front.state
  /-- The second run begins where the first one ends. -/
  vars : back.state.vars = front.finish.2.state.vars

namespace Joined

variable {front back whole : Run} (joined : Joined front back whole)

include joined

theorem within_front : Within 0 front whole where
  partForms := joined.frontForms
  wholeForms := joined.wholeForms
  found k statement found := by
    rw [joined.statements, Nat.add_zero, Statement.shift_zero]
    exact (List.getElem?_append_left (List.getElem?_eq_some_iff.mp found).1).trans found
  next := congrArg State.next joined.state
  vars := congrArg State.vars joined.state

/-- Once the statements of the first run are handled, the second run begins. -/
theorem within_back :
    Within front.statements.length back (Run.take front.remaining whole).2 := by
  have atSeam := joined.within_front.finish.2
  have done : front.finish.2.state.next = front.statements.length := by
    rw [final_finish joined.frontNext, next_after joined.frontNext, Nat.min_self]
  constructor
  case partForms => exact joined.backForms
  case wholeForms => exact atSeam.wholeForms
  case found =>
    intro k statement found
    change (whole.after front.remaining).statements[k + front.statements.length]? = _
    rw [statements_after, joined.statements,
      List.getElem?_append_right (Nat.le_add_left _ _), Nat.add_sub_cancel, List.getElem?_map,
      found]
    rfl
  case next => rw [atSeam.next, done, joined.backNext, Nat.add_comm]
  case vars => rw [atSeam.vars, joined.vars]

theorem remaining_whole : whole.remaining = front.remaining + back.remaining := by
  simp only [remaining, joined.statements, joined.state, joined.frontNext, joined.backNext,
    List.length_append, List.length_map]
  omega

/-- The whole run takes the steps of both runs. -/
theorem steps_finish :
    whole.finish.1.map Visit.step = front.finish.1.map Visit.step ++
      (back.finish.1.map Visit.step).map (Step.shift front.statements.length) := by
  have unshifted : ∀ steps : List Step, steps.map (Step.shift 0) = steps := by
    intro steps
    rw [funext Step.shift_zero, List.map_id']
  rw [finish, joined.remaining_whole, take_add, List.map_append, joined.within_front.finish.1,
    joined.within_back.finish.1, unshifted]

theorem vars_finish : whole.finish.2.state.vars = back.finish.2.state.vars := by
  rw [finish, joined.remaining_whole, take_add]
  exact joined.within_back.finish.2.vars

theorem diagnosticsOf_finish :
    diagnosticsOf whole.finish.1 = diagnosticsOf front.finish.1 ++
      (diagnosticsOf back.finish.1).map (Diagnostic.shift front.statements.length) := by
  rw [diagnosticsOf_eq, joined.steps_finish, List.filterMap_append,
    Step.filterMap_diagnostic?_shift, ← diagnosticsOf_eq, ← diagnosticsOf_eq]

theorem summaryOf_finish :
    whole.summaryOf whole.finish.1 =
      (front.summaryOf front.finish.1).add (back.summaryOf back.finish.1) := by
  rw [summaryOf, joined.steps_finish, joined.statements, List.length_append, List.length_map,
    Summary.ofSteps_append_shift]
  rfl

end Joined

end Run

namespace Session

/-- A script whose two parts are cleaned on their own, and whose first part leaves no
statement open, does what its parts do one after the other: it leaves the same variables, the
numbers of the second part's diagnostics go on from the statements of the first, and the
counts add up. -/
theorem exec_append {first second : Text}
    (cleaned : Script.clean (first ++ second) = Script.clean first ++ Script.clean second)
    (ended : Script.clean first = [] ∨ (Script.clean first).getLast? = some ';')
    (vars : Store) :
    ((Session.mk .standard vars).exec (first ++ second)).session =
        (((Session.mk .standard vars).exec first).session.exec second).session ∧
    ((Session.mk .standard vars).exec (first ++ second)).diagnostics =
        ((Session.mk .standard vars).exec first).diagnostics ++
          (((Session.mk .standard vars).exec first).session.exec second).diagnostics.map
            (fun diagnostic => { diagnostic with
              index := diagnostic.index + (Statement.listOf (Script.clean first)).length }) ∧
    ((Session.mk .standard vars).exec (first ++ second)).summary =
        ((Session.mk .standard vars).exec first).summary.add
          (((Session.mk .standard vars).exec first).session.exec second).summary := by
  have joined : Run.Joined ((Session.mk .standard vars).start first)
      (((Session.mk .standard vars).exec first).session.start second)
      ((Session.mk .standard vars).start (first ++ second)) := by
    refine ⟨rfl, rfl, rfl, ?_, rfl, rfl, rfl, rfl⟩
    change Statement.listOf (Script.clean (first ++ second)) = _
    rw [cleaned]
    exact Statement.listOf_append ended (Script.clean second)
  exact ⟨congrArg (Session.mk .standard) joined.vars_finish, joined.diagnosticsOf_finish,
    joined.summaryOf_finish⟩

/-- A blank statement at the seam keeps its number, and what the first part assigns is there
for the second. -/
theorem exec_append_blank_at_seam :
    Script.clean ("NOISE;LET a = 1;/* c */ ;".toList ++ "LET b = $(a);\tNOISE $(b);tail".toList) =
        Script.clean "NOISE;LET a = 1;/* c */ ;".toList ++
          Script.clean "LET b = $(a);\tNOISE $(b);tail".toList ∧
    ((Session.mk .standard .empty).exec
        ("NOISE;LET a = 1;/* c */ ;".toList ++ "LET b = $(a);\tNOISE $(b);tail".toList)).summary =
      ((Session.mk .standard .empty).exec "NOISE;LET a = 1;/* c */ ;".toList).summary.add
        (((Session.mk .standard .empty).exec "NOISE;LET a = 1;/* c */ ;".toList).session.exec
          "LET b = $(a);\tNOISE $(b);tail".toList).summary := by
  have cleaned :
      Script.clean ("NOISE;LET a = 1;/* c */ ;".toList ++ "LET b = $(a);\tNOISE $(b);tail".toList) =
        Script.clean "NOISE;LET a = 1;/* c */ ;".toList ++
          Script.clean "LET b = $(a);\tNOISE $(b);tail".toList := by
    decide +kernel
  have ended : (Script.clean "NOISE;LET a = 1;/* c */ ;".toList).getLast? = some ';' := by
    decide +kernel
  exact ⟨cleaned, (exec_append cleaned (.inr ended) .empty).2.2⟩

end Session

end LoadScript
