import LoadScript.Proofs.Head
import LoadScript.Proofs.Stepping
import LoadScript.Proofs.Writes
import LoadScript.Session

/-!
# What a script does to the variables

Under the built-in forms a step makes one assignment or changes no variable at all, and
which of the two it is depends only on the statement with its references filled in.  The
variables after a script are therefore those before it under the row of its assignments.

The main statement, `exec_accounted`, reads the final entry of every name off the
executed steps: the last assignment of a name wins, and all else stays.
-/

namespace LoadScript.Assignment

open Text

/-! ## Texts that are assignments -/

/-- The text is an assignment to `name`: blanks, a head, blanks, and the text `raw` of the
value. -/
def Assigns (text name raw : Text) : Prop :=
  ∃ blanks front gap, text = blanks ++ front ∧ (∀ c ∈ blanks, isBlank c = true) ∧
    Head front name (gap ++ raw) ∧ Gap gap ∧ ∀ c ∈ raw.head?, isBlank c = false

/-- A head begins with no blank. -/
theorem Head.head_isBlank {text name rest : Text} (head : Head text name rest) :
    ∀ c ∈ text.head?, isBlank c = false := by
  rcases head with ⟨verb, gap, gap', rfl, spelled, _⟩
  exact spelled.head_append

/-- Assignments are read as they are written. -/
theorem ofText?_eq_some_iff {text name raw : Text} :
    ofText? text = some (name, raw) ↔ Assigns text name raw := by
  constructor
  · intro found
    simp only [ofText?, Option.bind_eq_bind, Option.bind_eq_some_iff, Option.pure_def,
      Option.some.injEq, Prod.exists, Prod.mk.injEq] at found
    obtain ⟨target, behind, headRead, value, valueRead, rfl, rfl⟩ := found
    rcases afterBlanks?_eq_some_iff.mp valueRead with ⟨gap, blank, rfl, stops⟩
    refine ⟨text.takeWhile isBlank, text.dropWhile isBlank, gap, ?_, ?_,
      head?_eq_some_iff.mp headRead, blank, stops⟩
    · exact List.takeWhile_append_dropWhile.symm
    · exact List.all_eq_true.mp List.all_takeWhile
  · rintro ⟨blanks, front, gap, rfl, blank, head, blank', stops⟩
    have headRead := head?_eq_some_iff.mpr head
    have valueRead := afterBlanks?_eq_some_iff.mpr ⟨gap, blank', rfl (a := gap ++ raw), stops⟩
    simp [ofText?, dropWhile_isBlank_append blank head.head_isBlank, headRead, valueRead]

/-- A text assigns to one name only, and one value. -/
theorem Assigns.unique {text name raw name' raw' : Text} (left : Assigns text name raw)
    (right : Assigns text name' raw') : name' = name ∧ raw' = raw := by
  rw [← ofText?_eq_some_iff] at left right
  exact Prod.mk.inj (Option.some.inj (right.symm.trans left))

/-- The form of assignments refuses a text and changes nothing, or it executes the text as an
assignment.  The text alone decides, whatever the variables are. -/
theorem execute_cases (text : Text) :
    (∃ fault reason, ∀ state, execute text state = (.refused fault reason, state)) ∨
    ∃ name raw, Assigns text name raw ∧ ∀ state, execute text state =
      (.executed, ⟨state.vars.set name (.coerce raw), state.next + 1⟩) := by
  by_cases several : 1 < headCount text
  · exact .inl ⟨_, _, fun state => if_pos several⟩
  · cases read : ofText? text with
    | none =>
        left
        refine ⟨?fault, ?reason, fun state => ?refused⟩
        case refused =>
          rw [execute, if_neg several, read]
    | some assignment =>
        obtain ⟨name, raw⟩ := assignment
        right
        refine ⟨name, raw, ofText?_eq_some_iff.mp read, fun state => ?_⟩
        rw [execute, if_neg several, read]
        rfl

/-- The built-in forms together do to a text what the form of assignments does, or refuse
it. -/
theorem dispatch_standard_cases (text : Text) :
    (∃ fault reason, ∀ state,
      Registry.standard.dispatch text state = (.refused fault reason, state)) ∨
    ∃ name raw, Assigns text name raw ∧ ∀ state,
      Registry.standard.dispatch text state =
        (.executed form.name, ⟨state.vars.set name (.coerce raw), state.next + 1⟩) := by
  by_cases claimed : claims text = true
  · have alone : Registry.standard.claimants text = [form] := List.filter_cons_of_pos claimed
    rcases execute_cases text with ⟨fault, reason, refused⟩ | ⟨name, raw, assigns, executed⟩
    · left
      refine ⟨fault, reason, fun state => ?_⟩
      have refuses : form.execute text state = (.refused fault reason, state) := refused state
      simp only [Registry.dispatch, alone, refuses]
    · right
      refine ⟨name, raw, assigns, fun state => ?_⟩
      have executes : form.execute text state =
          (.executed, ⟨state.vars.set name (.coerce raw), state.next + 1⟩) := executed state
      simp only [Registry.dispatch, alone, executes]
  · have unclaimed : Registry.standard.claimants text = [] := List.filter_cons_of_neg claimed
    left
    refine ⟨?fault, ?reason, fun state => ?refused⟩
    case refused =>
      simp only [Registry.dispatch, unclaimed]
      rfl

end LoadScript.Assignment

namespace LoadScript.Run

/-! ## What one step does -/

/-- A run past its statements takes no step. -/
theorem step_of_getElem?_eq_none {run : Run}
    (past : run.statements[run.state.next]? = none) : run.step = (.halted, run) := by
  rw [step, past]

/-- A run with the built-in forms is at a statement, which reads `text` once its references
are filled in. -/
structure Faces (run : Run) (statement : Statement) (text : Text) (index : Nat) : Prop where
  /-- The forms are those built in. -/
  standard : run.registry = .standard
  /-- The number of the next statement. -/
  next : run.state.next = index
  /-- The statement has this number. -/
  found : run.statements[index]? = some statement
  /-- The references are filled in from the variables. -/
  filled : expanded run.state.vars statement = text

/-- A step makes an assignment or leaves the variables alone.  The statement and its text
decide, so runs that face the same text take the same step. -/
theorem step_standard_cases (statement : Statement) (text : Text) (index : Nat) :
    (∃ step, step.isExecuted = false ∧ ∀ run, Faces run statement text index →
      run.step = (step, run.goTo run.state.vars (index + 1))) ∨
    ∃ name raw, Assignment.Assigns text name raw ∧ ∀ run, Faces run statement text index →
      run.step = (.executed index Assignment.form.name,
        run.goTo (run.state.vars.set name (.coerce raw)) (index + 1)) := by
  by_cases blank : statement.isBlank = true
  · left
    refine ⟨.skipped index, rfl, ?_⟩
    rintro run ⟨_, rfl, found, _⟩
    simp only [step, found, if_pos blank]
  · rcases Assignment.dispatch_standard_cases text with
      ⟨fault, reason, refused⟩ | ⟨name, raw, assigns, executed⟩
    · left
      refine ⟨.diagnosed ⟨index, statement.text, text, fault, reason⟩, rfl, ?_⟩
      rintro run ⟨standard, rfl, found, filled⟩
      simp only [step, found, if_neg blank, standard, filled, refused]
    · right
      refine ⟨name, raw, assigns, ?_⟩
      rintro run ⟨standard, rfl, found, filled⟩
      simp only [step, found, if_neg blank, standard, filled, executed]

/-! ## The assignments of visits -/

namespace Visit

/-- The text that a visit offers to the forms. -/
def text? (visit : Visit) : Option Text :=
  visit.before.statements[visit.before.state.next]?.map (expanded visit.before.state.vars)

/-- The variables after the step of a visit. -/
def varsAfter (visit : Visit) : Store :=
  visit.before.step.2.state.vars

/-- The visit executes an assignment of the value text `raw` to `name`. -/
def Assigns (visit : Visit) (name raw : Text) : Prop :=
  visit.step.isExecuted = true ∧
    ∃ text, visit.text? = some text ∧ Assignment.Assigns text name raw

/-- The variable that a visit writes, with its value. -/
def write? (visit : Visit) : Option (Text × Value) :=
  if visit.step.isExecuted then
    (visit.text?.bind Assignment.ofText?).map fun (name, raw) => (name, .coerce raw)
  else none

theorem write?_eq_some_iff {visit : Visit} {name : Text} {value : Value} :
    visit.write? = some (name, value) ↔ ∃ raw, visit.Assigns name raw ∧ .coerce raw = value := by
  by_cases executed : visit.step.isExecuted = true
  · simp only [write?, executed, ↓reduceIte, Option.map_eq_some_iff, Option.bind_eq_some_iff,
      Prod.exists, Prod.mk.injEq, Assignment.ofText?_eq_some_iff, Assigns, true_and]
    constructor
    · rintro ⟨_, raw, ⟨text, offered, assigns⟩, rfl, coerced⟩
      exact ⟨raw, ⟨text, offered, assigns⟩, coerced⟩
    · rintro ⟨raw, ⟨text, offered, assigns⟩, coerced⟩
      exact ⟨name, raw, ⟨text, offered, assigns⟩, rfl, coerced⟩
  · simp [write?, Assigns, executed]

theorem Assigns.unique {visit : Visit} {name raw name' raw' : Text}
    (left : visit.Assigns name raw) (right : visit.Assigns name' raw') :
    name' = name ∧ raw' = raw := by
  rcases left with ⟨_, text, offered, assigns⟩
  rcases right with ⟨_, text', offered', assigns'⟩
  obtain rfl : text = text' := Option.some.inj (offered.symm.trans offered')
  exact assigns.unique assigns'

/-- The visit was made by a run with the built-in forms. -/
structure Standard (visit : Visit) : Prop where
  /-- The forms of the run. -/
  forms : visit.before.registry = .standard
  /-- The step is the one that the run takes. -/
  taken : visit.step = visit.before.step.1

/-- A visit makes one assignment or leaves the variables alone. -/
theorem Standard.cases {visit : Visit} (standard : visit.Standard) :
    (visit.step.isExecuted = false ∧ visit.varsAfter = visit.before.state.vars) ∨
    ∃ name raw, visit.Assigns name raw ∧
      visit.varsAfter = visit.before.state.vars.set name (.coerce raw) := by
  rcases standard with ⟨forms, taken⟩
  unfold varsAfter
  cases found : visit.before.statements[visit.before.state.next]? with
  | none =>
      left
      rw [taken, step_of_getElem?_eq_none found]
      exact ⟨rfl, rfl⟩
  | some statement =>
      have faces : Faces visit.before statement (expanded visit.before.state.vars statement)
          visit.before.state.next := ⟨forms, rfl, found, rfl⟩
      rcases step_standard_cases statement _ _ with
        ⟨step, refused, steps⟩ | ⟨name, raw, assigns, steps⟩
      · left
        rw [taken, steps _ faces]
        exact ⟨refused, rfl⟩
      · right
        refine ⟨name, raw, ⟨?_, _, ?_, assigns⟩, ?_⟩
        · rw [taken, steps _ faces]
          rfl
        · rw [text?, found, Option.map_some]
        · rw [steps _ faces]
          rfl

theorem Standard.varsAfter_eq {visit : Visit} (standard : visit.Standard) :
    visit.varsAfter = visit.before.state.vars.setAll visit.write?.toList := by
  rcases standard.cases with ⟨refused, unchanged⟩ | ⟨name, raw, assigns, written⟩
  · simpa [write?, refused] using unchanged
  · rw [write?_eq_some_iff.mpr ⟨raw, assigns, rfl⟩, written]
    rfl

end Visit

/-- The variables that some visits write, in order. -/
def writesOf (visits : List Visit) : List (Text × Value) :=
  visits.filterMap Visit.write?

theorem writesOf_append (first second : List Visit) :
    writesOf (first ++ second) = writesOf first ++ writesOf second :=
  List.filterMap_append

theorem mem_writesOf_iff {visits : List Visit} {name : Text} {value : Value} :
    (name, value) ∈ writesOf visits ↔
      ∃ visit ∈ visits, ∃ raw, visit.Assigns name raw ∧ .coerce raw = value := by
  simp only [writesOf, List.mem_filterMap, Visit.write?_eq_some_iff]

/-- The visits of a run with the built-in forms are such visits. -/
theorem standard_of_mem_take {run : Run} (standard : run.registry = .standard) {count : Nat}
    {visit : Visit} (member : visit ∈ (take count run).1) : visit.Standard := by
  rw [visits_take] at member
  rcases List.mem_map.mp member with ⟨k, _, rfl⟩
  exact ⟨(registry_after run k).trans standard, rfl⟩

/-- After some steps the variables are those before under the writes of the steps. -/
theorem vars_take {run : Run} (standard : run.registry = .standard) (count : Nat) :
    (take count run).2.state.vars = run.state.vars.setAll (writesOf (take count run).1) := by
  induction count with
  | zero => rfl
  | succ count ih =>
      have last : (run.visit count).Standard := ⟨(registry_after run count).trans standard, rfl⟩
      have before : (run.visit count).before.state.vars = (take count run).2.state.vars := rfl
      calc
        (take (count + 1) run).2.state.vars = (run.after count).step.2.state.vars :=
          congrArg (·.state.vars) (after_succ run count)
        _ = (run.state.vars.setAll (writesOf (take count run).1)).setAll
              (run.visit count).write?.toList := by
          rw [← ih, ← before]
          exact last.varsAfter_eq
        _ = run.state.vars.setAll (writesOf (take (count + 1) run).1) := by
          rw [visits_take, visits_take, List.range_succ, List.map_append, writesOf_append,
            Store.setAll_append]
          cases written : (run.visit count).write? <;> simp [writesOf, written]

/-! ## The variables after a script -/

/-- The executed visits account for the variables that a script leaves. -/
structure Accounted (vars : Store) (visits : List Visit) (final : Store) : Prop where
  /-- An executed visit makes one assignment, and changes nothing else. -/
  executed : ∀ visit ∈ visits, visit.step.isExecuted = true →
    ∃ name raw, visit.Assigns name raw ∧
      (∀ name' raw', visit.Assigns name' raw' → name' = name ∧ raw' = raw) ∧
      visit.varsAfter = visit.before.state.vars.set name (.coerce raw)
  /-- Any other visit changes no variable. -/
  refused : ∀ visit ∈ visits, visit.step.isExecuted = false →
    visit.varsAfter = visit.before.state.vars
  /-- The last assignment of a name is its entry. -/
  last : ∀ front visit back name raw, visits = front ++ visit :: back →
    visit.Assigns name raw → (∀ later ∈ back, ∀ raw', ¬later.Assigns name raw') →
    final.find? name = some ⟨.variable, .coerce raw⟩
  /-- A name without assignments keeps its entry, or has none as before. -/
  untouched : ∀ name, (∀ visit ∈ visits, ∀ raw, ¬visit.Assigns name raw) →
    final.find? name = vars.find? name
  /-- No name is removed. -/
  kept : ∀ name, vars.contains name = true → final.contains name = true
  /-- As many entries are added as names are assigned for the first time. -/
  grown : ∃ fresh : Finset Text,
    (∀ name, name ∈ fresh ↔
      vars.contains name = false ∧ ∃ visit ∈ visits, ∃ raw, visit.Assigns name raw) ∧
    final.size = vars.size + fresh.card

theorem find?_setAll_writesOf_of_forall_not {visits : List Visit} {name : Text}
    (unassigned : ∀ visit ∈ visits, ∀ raw, ¬visit.Assigns name raw) (vars : Store) :
    (vars.setAll (writesOf visits)).find? name = vars.find? name := by
  apply Store.find?_setAll_of_forall_ne
  rintro ⟨other, value⟩ member rfl
  rcases mem_writesOf_iff.mp member with ⟨visit, present, raw, assigns, _⟩
  exact unassigned visit present raw assigns

/-- Visits under the built-in forms account for the variables. -/
theorem accounted_setAll {visits : List Visit} (standard : ∀ visit ∈ visits, visit.Standard)
    (vars : Store) : Accounted vars visits (vars.setAll (writesOf visits)) := by
  constructor
  case executed =>
    intro visit member isExecuted
    rcases (standard visit member).cases with ⟨refused, _⟩ | ⟨name, raw, assigns, written⟩
    · rw [refused] at isExecuted
      contradiction
    · exact ⟨name, raw, assigns, fun _ _ => assigns.unique, written⟩
  case refused =>
    intro visit member notExecuted
    rcases (standard visit member).cases with ⟨_, unchanged⟩ | ⟨name, raw, assigns, _⟩
    · exact unchanged
    · rw [assigns.1] at notExecuted
      contradiction
  case last =>
    rintro front visit back name raw rfl assigns later
    have written : writesOf [visit] = [(name, .coerce raw)] := by
      simp [writesOf, Visit.write?_eq_some_iff.mpr ⟨raw, assigns, rfl⟩]
    rw [← List.singleton_append, writesOf_append, writesOf_append, written,
      Store.setAll_append, Store.setAll_append, find?_setAll_writesOf_of_forall_not later,
      Store.setAll_singleton, Store.find?_set, if_pos rfl]
  case untouched =>
    intro name unassigned
    exact find?_setAll_writesOf_of_forall_not unassigned vars
  case kept =>
    intro name present
    exact Store.contains_setAll_iff.mpr (.inl present)
  case grown =>
    refine ⟨((writesOf visits).map Prod.fst).toFinset \ vars.names, ?_, Store.size_setAll _ _⟩
    intro name
    rw [Finset.mem_sdiff, Store.mem_names_iff, Bool.not_eq_true, and_comm, List.mem_toFinset,
      List.mem_map]
    apply and_congr Iff.rfl
    constructor
    · rintro ⟨⟨_, value⟩, member, rfl⟩
      rcases mem_writesOf_iff.mp member with ⟨visit, present, raw, assigns, _⟩
      exact ⟨visit, present, raw, assigns⟩
    · rintro ⟨visit, present, raw, assigns⟩
      exact ⟨(name, .coerce raw), mem_writesOf_iff.mpr ⟨visit, present, raw, assigns, rfl⟩, rfl⟩

end LoadScript.Run

namespace LoadScript.Session

/-- The visits of a script are visits under the forms of the session. -/
theorem standard_of_mem_visits {vars : Store} {source : Text} {visit : Run.Visit}
    (member : visit ∈ ((Session.mk .standard vars).exec source).visits) : visit.Standard :=
  Run.standard_of_mem_take rfl member

/-- The variables after a script are those before it under its writes. -/
theorem session_exec (vars : Store) (source : Text) :
    ((Session.mk .standard vars).exec source).session =
      ⟨.standard, vars.setAll (Run.writesOf ((Session.mk .standard vars).exec source).visits)⟩ :=
  congrArg (Session.mk .standard) (Run.vars_take rfl _)

/-- The variables after a script are told by its executed steps: the last assignment of a
name is its entry, names without assignments are left alone, and steps that are skipped or
reported change nothing. -/
theorem exec_accounted (vars : Store) (source : Text) :
    Run.Accounted vars ((Session.mk .standard vars).exec source).visits
      ((Session.mk .standard vars).exec source).session.vars := by
  rw [session_exec]
  exact Run.accounted_setAll (fun _ => standard_of_mem_visits) vars

/-! ## Several scripts -/

/-- The session after some scripts, which are run one after the other. -/
def execAll (session : Session) : List Text → Session
  | [] => session
  | source :: sources => (session.exec source).session.execAll sources

/-- The visits of some scripts, which are run one after the other. -/
def visitsAll (session : Session) : List Text → List Run.Visit
  | [] => []
  | source :: sources =>
      (session.exec source).visits ++ (session.exec source).session.visitsAll sources

theorem standard_of_mem_visitsAll {vars : Store} {sources : List Text} {visit : Run.Visit}
    (member : visit ∈ (Session.mk .standard vars).visitsAll sources) : visit.Standard := by
  induction sources generalizing vars with
  | nil => simp [visitsAll] at member
  | cons source sources ih =>
      rw [visitsAll, session_exec] at member
      rcases List.mem_append.mp member with inFirst | inRest
      · exact standard_of_mem_visits inFirst
      · exact ih inRest

/-- The variables after some scripts are those before them under their writes. -/
theorem session_execAll (vars : Store) (sources : List Text) :
    (Session.mk .standard vars).execAll sources =
      ⟨.standard, vars.setAll (Run.writesOf ((Session.mk .standard vars).visitsAll sources))⟩ := by
  induction sources generalizing vars with
  | nil => rfl
  | cons source sources ih =>
      rw [execAll, visitsAll, Run.writesOf_append, Store.setAll_append, session_exec, ih]

end LoadScript.Session
