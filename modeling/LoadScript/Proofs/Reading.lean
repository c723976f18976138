import LoadScript.Proofs.Effects
import LoadScript.Proofs.References

/-!
# What a script reads

A script reads no variables but those that its statements refer to, as they are written.
Two runs of a script whose variables give the same texts to these names face the same text
at every statement, take the same steps and make the same assignments, which keeps the
variables in agreement.

The main statement, `exec_reads_only_named`, draws the consequences for the whole script:
same reports, same steps and same writes, and no difference afterwards but the one that
was there before.
-/

namespace LoadScript

/-- Two stores give the same texts to all names of a kind. -/
def Store.AgreeOn (named : Text → Prop) (left right : Store) : Prop :=
  ∀ name, named name → left.referenceText? name = right.referenceText? name

/-- The same write keeps stores in agreement. -/
theorem Store.AgreeOn.set {named : Text → Prop} {left right : Store}
    (agree : AgreeOn named left right) (name : Text) (value : Value) :
    AgreeOn named (left.set name value) (right.set name value) := by
  intro other isNamed
  rw [referenceText?_set, referenceText?_set, agree other isNamed]

namespace Run

/-- One of the statements refers to the name. -/
def Mentions (statements : List Statement) (name : Text) : Prop :=
  ∃ statement ∈ statements, RefersTo statement.text name

/-! ## Two runs side by side -/

/-- Two runs of the same statements, at the same place, whose variables agree on the names
that the statements refer to. -/
structure Alike (left right : Run) : Prop where
  /-- The forms of the first run are those built in. -/
  leftForms : left.registry = .standard
  /-- The forms of the second run are those built in. -/
  rightForms : right.registry = .standard
  /-- The statements are the same. -/
  statements : right.statements = left.statements
  /-- The next statement is the same. -/
  next : right.state.next = left.state.next
  /-- The variables give the same texts to the names referred to. -/
  agree : Store.AgreeOn (Mentions left.statements) left.state.vars right.state.vars

namespace Alike

variable {left right : Run} (alike : Alike left right)

include alike

/-- Both runs fill in the references of a statement in the same way. -/
theorem expanded_eq {statement : Statement} (member : statement ∈ left.statements) :
    expanded right.state.vars statement = expanded left.state.vars statement := by
  apply expand_congr
  intro name refers
  exact (alike.agree name ⟨statement, member, refers⟩).symm

theorem text?_eq (leftStep rightStep : Step) :
    (Visit.mk right rightStep).text? = (Visit.mk left leftStep).text? := by
  simp only [Visit.text?, alike.statements, alike.next]
  cases found : left.statements[left.state.next]? with
  | none => rfl
  | some statement =>
      rw [Option.map_some, Option.map_some, alike.expanded_eq (List.mem_of_getElem? found)]

/-- Both runs take the same step, and stay alike. -/
theorem step : right.step.1 = left.step.1 ∧ Alike left.step.2 right.step.2 := by
  cases found : left.statements[left.state.next]? with
  | none =>
      have found' : right.statements[right.state.next]? = none := by
        rw [alike.statements, alike.next, found]
      rw [step_of_getElem?_eq_none found, step_of_getElem?_eq_none found']
      exact ⟨rfl, alike⟩
  | some statement =>
      have filled := alike.expanded_eq (List.mem_of_getElem? found)
      have faces : Faces left statement (expanded left.state.vars statement) left.state.next :=
        ⟨alike.leftForms, rfl, found, rfl⟩
      have faces' : Faces right statement (expanded left.state.vars statement) left.state.next :=
        ⟨alike.rightForms, alike.next, alike.statements ▸ found, filled⟩
      rcases step_standard_cases statement _ _ with
        ⟨step, _, steps⟩ | ⟨name, raw, _, steps⟩
      · rw [steps left faces, steps right faces']
        exact ⟨rfl, alike.leftForms, alike.rightForms, alike.statements, rfl, alike.agree⟩
      · rw [steps left faces, steps right faces']
        refine ⟨rfl, alike.leftForms, alike.rightForms, alike.statements, rfl, ?_⟩
        exact alike.agree.set name (.coerce raw)

end Alike

/-- What can be seen of a visit: its outcome and the variable that it writes. -/
def Visit.trace (visit : Visit) : Step × Option (Text × Value) :=
  (visit.step, visit.write?)

/-- Runs that are alike leave the same trace. -/
theorem Alike.trace_take {left right : Run} (alike : Alike left right) (count : Nat) :
    (take count right).1.map Visit.trace = (take count left).1.map Visit.trace := by
  induction count generalizing left right with
  | zero => rfl
  | succ count ih =>
      rcases alike.step with ⟨sameStep, stillAlike⟩
      have sameText := alike.text?_eq left.step.1 left.step.1
      simp only [take, List.map_cons, ih stillAlike, sameStep, Visit.trace, Visit.write?, sameText]

theorem Alike.trace_finish {left right : Run} (alike : Alike left right) :
    right.finish.1.map Visit.trace = left.finish.1.map Visit.trace := by
  have sameCount : right.remaining = left.remaining := by
    rw [remaining, remaining, alike.statements, alike.next]
  rw [finish, finish, sameCount]
  exact alike.trace_take left.remaining

/-! ## Reading a trace -/

theorem diagnosticsOf_eq_trace (visits : List Visit) :
    diagnosticsOf visits =
      (visits.map Visit.trace).filterMap fun (step, _) => step.diagnostic? := by
  rw [List.filterMap_map]
  rfl

theorem writesOf_eq_trace (visits : List Visit) :
    writesOf visits = (visits.map Visit.trace).filterMap Prod.snd := by
  rw [List.filterMap_map]
  rfl

end Run

namespace Session

open Run

/-- A script reads only the variables that its statements refer to.  From stores that give
the same texts to these, it makes the same reports, takes the same steps and writes the same
values; afterwards the assigned names have the same entries, and all other names have those
that they had before. -/
theorem exec_reads_only_named {source : Text} {left right : Store}
    (agree : ∀ name, isName name = true →
      (∃ statement ∈ Statement.listOf (Script.clean source),
        '$' :: '(' :: (name ++ [')']) <:+: statement.text) →
      left.referenceText? name = right.referenceText? name) :
    ((Session.mk .standard left).exec source).diagnostics =
      ((Session.mk .standard right).exec source).diagnostics ∧
    ((Session.mk .standard left).exec source).visits.map Visit.trace =
      ((Session.mk .standard right).exec source).visits.map Visit.trace ∧
    (∀ name, (∃ visit ∈ ((Session.mk .standard left).exec source).visits,
        ∃ raw, visit.Assigns name raw) →
      ((Session.mk .standard left).exec source).session.vars.find? name =
        ((Session.mk .standard right).exec source).session.vars.find? name) ∧
    (∀ name, (∀ visit ∈ ((Session.mk .standard left).exec source).visits,
        ∀ raw, ¬visit.Assigns name raw) →
      ((Session.mk .standard left).exec source).session.vars.find? name = left.find? name ∧
      ((Session.mk .standard right).exec source).session.vars.find? name = right.find? name) := by
  have alike : Alike (.start .standard left source) (.start .standard right source) := by
    refine ⟨rfl, rfl, rfl, rfl, ?_⟩
    rintro name ⟨statement, member, valid, stands⟩
    exact agree name valid ⟨statement, member, stands⟩
  have sameTrace : ((Session.mk .standard right).exec source).visits.map Visit.trace =
      ((Session.mk .standard left).exec source).visits.map Visit.trace := alike.trace_finish
  have sameWrites : writesOf ((Session.mk .standard right).exec source).visits =
      writesOf ((Session.mk .standard left).exec source).visits := by
    rw [writesOf_eq_trace, writesOf_eq_trace, sameTrace]
  refine ⟨?_, sameTrace.symm, ?_, ?_⟩
  · rw [Completion.diagnostics, Completion.diagnostics, diagnosticsOf_eq_trace,
      diagnosticsOf_eq_trace, sameTrace]
  · rintro name ⟨visit, member, raw, assigns⟩
    rw [session_exec, session_exec, sameWrites]
    exact Store.find?_setAll_of_mem (mem_writesOf_iff.mpr ⟨visit, member, raw, assigns, rfl⟩) _ _
  · intro name unassigned
    rw [session_exec, session_exec, sameWrites]
    exact ⟨find?_setAll_writesOf_of_forall_not unassigned left,
      find?_setAll_writesOf_of_forall_not unassigned right⟩

/-- A script cannot tell a number from its digits, nor a subroutine from a name that is not
defined. -/
theorem exec_number_or_digits :
    ((Session.mk .standard ((Store.empty.set ['a'] (.integer 5)).defineSubroutine ['s'] ['x'])).exec
      "LET b = $(a);LET $(s) = 1;SET c$(b) = $(a)$(a);".toList).diagnostics =
    ((Session.mk .standard (Store.empty.set ['a'] (.string ['5']))).exec
      "LET b = $(a);LET $(s) = 1;SET c$(b) = $(a)$(a);".toList).diagnostics := by
  refine (exec_reads_only_named ?_).1
  have checked : ∀ statement ∈ Statement.listOf (Script.clean
      "LET b = $(a);LET $(s) = 1;SET c$(b) = $(a)$(a);".toList),
      ∀ name ∈ (Template.ofText statement.text).unresolved fun _ => none,
        ((Store.empty.set ['a'] (.integer 5)).defineSubroutine ['s'] ['x']).referenceText? name =
          (Store.empty.set ['a'] (.string ['5'])).referenceText? name := by
    decide +kernel
  rintro name valid ⟨statement, member, stands⟩
  exact checked statement member name (mem_unresolved_ofText_iff.mpr ⟨⟨valid, stands⟩, rfl⟩)

end Session

end LoadScript
